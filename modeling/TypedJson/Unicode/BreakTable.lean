namespace TypedJson.Unicode

/-- Runs of a length and a value; `H` stands for the syllables of Hangul. -/
def graphemeBreakRuns : String :=
  "10CN 1LF 2CN 1CR 18CN 95XX 33CN 13XX 1CN 594XX 112EX 275XX 7EX 263XX 45EX 1XX 1EX 1XX 2EX
  1XX 2EX 1XX 1EX 56XX 6PP 10XX 11EX 1XX 1CN 46XX 21EX 16XX 1EX 101XX 7EX 1PP 1XX 6EX 2XX 2EX
  1XX 4EX 33XX 1PP 1XX 1EX 30XX 27EX 91XX 11EX 58XX 9EX 9XX 1EX 24XX 4EX 1XX 9EX 1XX 3EX 1XX
  5EX 43XX 3EX 52XX 2PP 5XX 9EX 42XX 24EX 1PP 32EX 1SM 54XX 1EX 1SM 1EX 1XX 3SM 8EX 4SM 1EX
  2SM 1XX 7EX 10XX 2EX 29XX 1EX 2SM 56XX 1EX 1XX 1EX 2SM 4EX 2XX 2SM 2XX 2SM 1EX 9XX 1EX 10XX
  2EX 26XX 1EX 2XX 2EX 1SM 56XX 1EX 1XX 3SM 2EX 4XX 2EX 2XX 3EX 3XX 1EX 30XX 2EX 3XX 1EX 11XX
  2EX 1SM 56XX 1EX 1XX 3SM 5EX 1XX 2EX 1SM 1XX 2SM 1EX 20XX 2EX 22XX 6EX 1XX 1EX 2SM 56XX 1EX
  1XX 2EX 1SM 4EX 2XX 2SM 2XX 2SM 1EX 7XX 3EX 10XX 2EX 30XX 1EX 59XX 1EX 1SM 1EX 2SM 3XX 3SM
  1XX 3SM 1EX 9XX 1EX 40XX 1EX 3SM 1EX 55XX 1EX 1XX 3EX 4SM 1XX 3EX 1XX 4EX 7XX 2EX 11XX 2EX
  29XX 1EX 2SM 56XX 1EX 1XX 1SM 2EX 1SM 1EX 2SM 1XX 3EX 1XX 4EX 7XX 2EX 11XX 2EX 15XX 1SM 12XX
  2EX 2SM 55XX 2EX 1XX 1EX 2SM 4EX 1XX 3SM 1XX 3SM 1EX 1PP 8XX 1EX 10XX 2EX 29XX 1EX 2SM 70XX
  1EX 4XX 1EX 2SM 3EX 1XX 1EX 1XX 7SM 1EX 18XX 2SM 61XX 1EX 1XX 1SM 7EX 12XX 8EX 98XX 1EX 1XX
  1SM 9EX 11XX 7EX 73XX 2EX 27XX 1EX 1XX 1EX 1XX 1EX 4XX 2SM 49XX 14EX 1SM 5EX 1XX 2EX 5XX
  11EX 1XX 36EX 9XX 1EX 102XX 4EX 1SM 6EX 1XX 2EX 2SM 2EX 23XX 2SM 2EX 4XX 3EX 16XX 4EX 13XX
  1EX 1XX 1SM 2EX 6XX 1EX 15XX 1EX 98XX 96L 72V 88T 349XX 3EX 946XX 4EX 28XX 3EX 29XX 2EX 30XX
  2EX 64XX 2EX 1SM 7EX 8SM 1EX 2SM 11EX 9XX 1EX 45XX 3EX 1CN 1EX 117XX 2EX 34XX 1EX 118XX 3EX
  4SM 2EX 3SM 4XX 2SM 1EX 6SM 3EX 219XX 2EX 2SM 1EX 57XX 1SM 1EX 1SM 7EX 1XX 1EX 1XX 1EX 2XX
  8EX 6SM 10EX 2XX 1EX 48XX 31EX 49XX 4EX 1SM 47XX 10EX 4SM 3EX 38XX 9EX 12XX 2EX 1SM 30XX 1SM
  4EX 2SM 6EX 56XX 1EX 1SM 2EX 3SM 1EX 1SM 5EX 48XX 8SM 8EX 2SM 2EX 152XX 3EX 1XX 13EX 1SM 7EX
  4XX 1EX 6XX 1EX 2XX 1SM 2EX 198XX 64EX 523XX 1CN 1EX 1ZWJ 2CN 24XX 7CN 49XX 16CN 96XX 33EX
  3070XX 3EX 141XX 1EX 96XX 32EX 554XX 6EX 105XX 2EX 30164XX 4EX 1XX 10EX 32XX 2EX 80XX 2EX
  272XX 1EX 3XX 1EX 4XX 1EX 23XX 2SM 2EX 1SM 4XX 1EX 83XX 2SM 50XX 16SM 2EX 26XX 18EX 13XX 1EX
  38XX 8EX 25XX 11EX 1SM 1EX 12XX 29L 3XX 3EX 1SM 47XX 1EX 2SM 4EX 2SM 2EX 2SM 1EX 36XX 1EX
  67XX 6EX 2SM 2EX 2SM 2EX 12XX 1EX 8XX 1EX 1SM 46XX 1EX 51XX 1EX 1XX 3EX 2XX 2EX 5XX 2EX 1XX
  1EX 41XX 1SM 2EX 2SM 5XX 1SM 1EX 236XX 2SM 1EX 2SM 1EX 2SM 1XX 1SM 1EX 18XX 11172H 12XX 23V
  4XX 49T 8994XX 1EX 737XX 16EX 16XX 16EX 207XX 1CN 158XX 2EX 80XX 12CN 513XX 1EX 226XX 1EX
  149XX 5EX 1670XX 3EX 1XX 2EX 5XX 4EX 40XX 3EX 4XX 1EX 165XX 2EX 573XX 4EX 65XX 5EX 317XX 2EX
  79XX 4EX 70XX 11EX 49XX 4EX 122XX 1SM 1EX 1SM 53XX 15EX 41XX 1EX 2XX 2EX 10XX 3EX 1SM 45XX
  3SM 4EX 2SM 2EX 2XX 1PP 4XX 1EX 10XX 1PP 50XX 3EX 36XX 5EX 1SM 8EX 16XX 2SM 44XX 1EX 12XX
  2EX 1SM 48XX 3SM 9EX 1SM 1EX 1XX 2PP 5XX 4EX 1XX 1SM 1EX 92XX 3SM 3EX 2SM 4EX 6XX 1EX 2XX
  1EX 157XX 1EX 3SM 8EX 21XX 2EX 2SM 55XX 2EX 1XX 1EX 1SM 1EX 4SM 2XX 2SM 2XX 2SM 1EX 9XX 1EX
  10XX 2SM 2XX 7EX 3XX 5EX 67XX 1EX 2SM 6EX 1XX 1EX 2XX 1EX 1XX 3EX 1SM 1XX 2SM 3EX 1PP 1EX
  14XX 2EX 82XX 3SM 8EX 2SM 3EX 1SM 1EX 23XX 1EX 81XX 1EX 2SM 6EX 1SM 1EX 2SM 1EX 1SM 2EX 1SM
  2EX 235XX 1EX 2SM 4EX 2XX 4SM 2EX 1SM 2EX 27XX 2EX 82XX 3SM 8EX 2SM 1EX 1SM 2EX 106XX 1EX
  1SM 1EX 2SM 8EX 101XX 1EX 1SM 1EX 2XX 4EX 1SM 5EX 256XX 3SM 9EX 1SM 2EX 245XX 1EX 5SM 1XX
  2SM 2XX 4EX 1PP 1SM 1PP 1SM 1EX 141XX 3SM 4EX 2XX 2EX 4SM 1EX 3XX 1SM 28XX 10EX 40XX 6EX 1SM
  1PP 4EX 8XX 1EX 9XX 6EX 2SM 3EX 40XX 6PP 13EX 1SM 2EX 405XX 1SM 7EX 1XX 6EX 1SM 1EX 82XX
  22EX 1XX 1SM 7EX 1SM 2EX 1SM 2EX 122XX 6EX 3XX 1EX 1XX 2EX 1XX 7EX 1PP 1EX 66XX 5SM 1XX 2EX
  1XX 2SM 1EX 1SM 1EX 347XX 2EX 2SM 9XX 2EX 1PP 1SM 48XX 2SM 5EX 3XX 2SM 3EX 23XX 1EX 5333XX
  16CN 1EX 6XX 15EX 11464XX 12EX 3SM 3EX 2496XX 5EX 59XX 7EX 556XX 1V 3XX 4V 484XX 1EX 1XX
  55SM 7XX 4EX 81XX 1EX 11XX 2EX 19627XX 2EX 1XX 4CN 4700XX 46EX 2XX 23EX 542XX 5EX 3XX 6EX
  8CN 8EX 2XX 7EX 30XX 4EX 148XX 3EX 1979XX 55EX 4XX 50EX 8XX 1EX 14XX 1EX 22XX 5EX 1XX 15EX
  1360XX 7EX 1XX 17EX 2XX 7EX 1XX 2EX 1XX 5EX 100XX 1EX 160XX 7EX 375XX 1EX 61XX 4EX 508XX 4EX
  254XX 2EX 736XX 7EX 109XX 7EX 2203XX 26RI 507XX 5EX 789504XX 32CN 96EX 128CN 240EX 3600CN
  192512XX"

/-- The names of the values of graphemes without case and separators, and their labels. -/
def graphemeBreakValues : List (List String × String) :=
  [ (["cn", "control"], "CN"), (["cr"], "CR"), (["ex", "extend"], "EX"), (["l"], "L"),
    (["lf"], "LF"), (["pp", "prepend"], "PP"), (["ri", "regionalindicator"], "RI"),
    (["sm", "spacingmark"], "SM"), (["t"], "T"), (["v"], "V"), (["zwj"], "ZWJ")]

/-- Runs of a length and a value. -/
def wordBreakRuns : String :=
  "10XX 1LF 2NL 1CR 18XX 1WSegSpace 1XX 1DQ 4XX 1SQ 4XX 1MN 1XX 1MB 1XX 10NU 1ML 1MN 5XX 26LE
  4XX 1EX 1XX 26LE 10XX 1NL 36XX 1LE 2XX 1FO 7XX 1LE 1XX 1ML 2XX 1LE 5XX 23LE 1XX 31LE 1XX
  480LE 6XX 34LE 112Extend 5LE 1XX 2LE 2XX 4LE 1MN 1LE 6XX 1LE 1ML 3LE 1XX 1LE 1XX 20LE 1XX
  83LE 1XX 139LE 1XX 7Extend 166LE 1XX 38LE 2XX 4LE 1XX 1LE 1ML 41LE 1MN 1LE 6XX 45Extend 1XX
  1Extend 1XX 2Extend 1XX 2Extend 1XX 1Extend 8XX 27HL 4XX 4HL 1LE 1ML 11XX 6NU 6XX 2MN 2XX
  11Extend 1XX 1FO 3XX 43LE 21Extend 10NU 1XX 1NU 1MN 1XX 2LE 1Extend 99LE 1XX 1LE 7Extend 1NU
  1XX 6Extend 2LE 2Extend 1XX 4Extend 2LE 10NU 3LE 2XX 1LE 15XX 2LE 1Extend 30LE 27Extend 2XX
  89LE 11Extend 1LE 14XX 10NU 33LE 9Extend 2LE 2XX 1MN 1XX 1LE 2XX 1Extend 2XX 22LE 4Extend
  1LE 9Extend 1LE 3Extend 1LE 5Extend 18XX 25LE 3Extend 4XX 11LE 5XX 24LE 1XX 6LE 1XX 2NU 5XX
  9Extend 42LE 24Extend 1NU 33Extend 54LE 3Extend 1LE 18Extend 1LE 7Extend 10LE 2Extend 2XX
  10NU 1XX 16LE 3Extend 1XX 8LE 2XX 2LE 2XX 22LE 1XX 7LE 1XX 1LE 3XX 4LE 2XX 1Extend 1LE
  7Extend 2XX 2Extend 2XX 3Extend 1LE 8XX 1Extend 4XX 2LE 1XX 3LE 2Extend 2XX 10NU 2LE 10XX
  1LE 1XX 1Extend 2XX 3Extend 1XX 6LE 4XX 2LE 2XX 22LE 1XX 7LE 1XX 2LE 1XX 2LE 1XX 2LE 2XX
  1Extend 1XX 5Extend 4XX 2Extend 2XX 3Extend 3XX 1Extend 7XX 4LE 1XX 1LE 7XX 10NU 2Extend 3LE
  1Extend 11XX 3Extend 1XX 9LE 1XX 3LE 1XX 22LE 1XX 7LE 1XX 2LE 1XX 5LE 2XX 1Extend 1LE
  8Extend 1XX 3Extend 1XX 3Extend 2XX 1LE 15XX 2LE 2Extend 2XX 10NU 9XX 1LE 6Extend 1XX
  3Extend 1XX 8LE 2XX 2LE 2XX 22LE 1XX 7LE 1XX 2LE 1XX 5LE 2XX 1Extend 1LE 7Extend 2XX 2Extend
  2XX 3Extend 7XX 3Extend 4XX 2LE 1XX 3LE 2Extend 2XX 10NU 1XX 1LE 16XX 1Extend 1LE 1XX 6LE
  3XX 3LE 1XX 4LE 3XX 2LE 1XX 1LE 1XX 2LE 3XX 2LE 3XX 3LE 3XX 12LE 4XX 5Extend 3XX 3Extend 1XX
  4Extend 2XX 1LE 6XX 1Extend 14XX 10NU 16XX 5Extend 8LE 1XX 3LE 1XX 23LE 1XX 16LE 2XX 1Extend
  1LE 7Extend 1XX 3Extend 1XX 4Extend 7XX 2Extend 1XX 3LE 2XX 1LE 2XX 2LE 2Extend 2XX 10NU
  16XX 1LE 3Extend 1XX 8LE 1XX 3LE 1XX 23LE 1XX 10LE 1XX 5LE 2XX 1Extend 1LE 7Extend 1XX
  3Extend 1XX 4Extend 7XX 2Extend 6XX 2LE 1XX 2LE 2Extend 2XX 10NU 1XX 2LE 1Extend 12XX
  4Extend 9LE 1XX 3LE 1XX 41LE 2Extend 1LE 7Extend 1XX 3Extend 1XX 4Extend 1LE 5XX 3LE 1Extend
  7XX 3LE 2Extend 2XX 10NU 10XX 6LE 1XX 3Extend 1XX 18LE 3XX 24LE 1XX 9LE 1XX 1LE 2XX 7LE 3XX
  1Extend 4XX 6Extend 1XX 1Extend 1XX 8Extend 6XX 10NU 2XX 2Extend 61XX 1Extend 2XX 7Extend
  12XX 8Extend 1XX 10NU 87XX 1Extend 2XX 9Extend 11XX 7Extend 1XX 10NU 38XX 1LE 23XX 2Extend
  6XX 10NU 11XX 1Extend 1XX 1Extend 1XX 1Extend 4XX 2Extend 8LE 1XX 36LE 4XX 20Extend 1XX
  2Extend 5LE 11Extend 1XX 36Extend 9XX 1Extend 100XX 20Extend 1XX 10NU 12XX 4Extend 4XX
  3Extend 1XX 3Extend 2XX 7Extend 3XX 4Extend 13XX 12Extend 1XX 1Extend 10NU 4Extend 2XX 38LE
  1XX 1LE 5XX 1LE 2XX 43LE 1XX 333LE 1XX 4LE 2XX 7LE 1XX 1LE 1XX 4LE 2XX 41LE 1XX 4LE 2XX 33LE
  1XX 4LE 2XX 7LE 1XX 1LE 1XX 4LE 2XX 15LE 1XX 57LE 1XX 4LE 2XX 67LE 2XX 3Extend 32XX 16LE
  16XX 86LE 2XX 6LE 3XX 620LE 2XX 17LE 1WSegSpace 26LE 5XX 75LE 3XX 11LE 7XX 18LE 4Extend 9XX
  19LE 3Extend 11XX 18LE 2Extend 12XX 13LE 1XX 3LE 1XX 2Extend 64XX 32Extend 9XX 1Extend 2XX
  10NU 33XX 3Extend 1FO 1Extend 10NU 6XX 89LE 7XX 5LE 2Extend 34LE 1Extend 1LE 5XX 70LE 10XX
  31LE 1XX 12Extend 4XX 12Extend 10XX 10NU 128XX 10NU 38XX 23LE 5Extend 57XX 10Extend 1XX
  29Extend 2XX 1Extend 10NU 6XX 10NU 22XX 31Extend 49XX 5Extend 47LE 17Extend 8LE 3XX 10NU
  17XX 9Extend 12XX 3Extend 30LE 13Extend 2LE 10NU 44LE 14Extend 12XX 36LE 20Extend 8XX 10NU
  3XX 3LE 10NU 36LE 2XX 11LE 5XX 43LE 2XX 3LE 16XX 3Extend 1XX 21Extend 4LE 1Extend 6LE
  1Extend 2LE 3Extend 1LE 5XX 192LE 64Extend 278LE 2XX 6LE 2XX 38LE 2XX 6LE 2XX 8LE 1XX 1LE
  1XX 1LE 1XX 1LE 1XX 31LE 2XX 53LE 1XX 7LE 1XX 1LE 3XX 3LE 1XX 7LE 3XX 4LE 2XX 6LE 4XX 13LE
  5XX 3LE 1XX 7LE 3XX 7WSegSpace 1XX 3WSegSpace 1XX 1Extend 1ZWJ 2FO 8XX 2MB 10XX 1MB 2XX 1ML
  2NL 5FO 1EX 15XX 2EX 3XX 1MN 15XX 1EX 10XX 1WSegSpace 5FO 1XX 10FO 1XX 1LE 13XX 1LE 16XX
  13LE 51XX 33Extend 17XX 1LE 4XX 1LE 2XX 10LE 1XX 1LE 3XX 5LE 6XX 1LE 1XX 1LE 1XX 1LE 1XX 4LE
  1XX 11LE 2XX 4LE 5XX 5LE 4XX 1LE 17XX 41LE 813XX 52LE 1814XX 229LE 6XX 4LE 3Extend 2LE 12XX
  38LE 1XX 1LE 5XX 1LE 2XX 56LE 7XX 1LE 15XX 1Extend 23LE 9XX 7LE 1XX 7LE 1XX 7LE 1XX 7LE 1XX
  7LE 1XX 7LE 1XX 7LE 1XX 7LE 1XX 32Extend 47XX 1LE 464XX 1WSegSpace 4XX 1LE 36XX 6Extend 1XX
  5KA 5XX 2LE 92XX 2Extend 2KA 3XX 91KA 1XX 4KA 5XX 43LE 1XX 94LE 17XX 32LE 48XX 16KA 208XX
  47KA 1XX 88KA 27816XX 1165LE 67XX 46LE 2XX 269LE 3XX 16LE 10NU 2LE 20XX 47LE 4Extend 1XX
  10Extend 1XX 31LE 2Extend 80LE 2Extend 22XX 198LE 2XX 2LE 1XX 1LE 1XX 8LE 21XX 16LE 1Extend
  3LE 1Extend 4LE 1Extend 23LE 5Extend 4XX 1Extend 19XX 52LE 12XX 2Extend 50LE 18Extend 10XX
  10NU 6XX 18Extend 6LE 3XX 1LE 1XX 2LE 1Extend 10NU 28LE 8Extend 2XX 23LE 13Extend 12XX 29LE
  3XX 4Extend 47LE 14Extend 14XX 1LE 10NU 11XX 1Extend 10XX 10NU 6XX 41LE 14Extend 9XX 3LE
  1Extend 8LE 2Extend 2XX 10NU 33XX 3Extend 50XX 1Extend 1XX 3Extend 2XX 2Extend 5XX 2Extend
  1XX 1Extend 30XX 11LE 5Extend 2XX 3LE 2Extend 10XX 6LE 2XX 6LE 2XX 6LE 9XX 7LE 1XX 7LE 1XX
  58LE 6XX 115LE 8Extend 1XX 2Extend 2XX 10NU 6XX 11172LE 12XX 23LE 4XX 49LE 8964XX 7LE 12XX
  5LE 5XX 1HL 1Extend 10HL 1XX 13HL 1XX 5HL 1XX 1HL 1XX 2HL 1XX 2HL 1XX 10HL 98LE 33XX 363LE
  18XX 64LE 2XX 54LE 40XX 12LE 4XX 16Extend 1MN 2XX 1ML 1MN 11XX 16Extend 3XX 2EX 24XX 3EX 1MN
  1XX 1MB 1XX 1MN 1ML 26XX 5LE 1XX 135LE 2XX 1FO 7XX 1MB 4XX 1MN 1XX 1MB 1XX 10NU 1ML 1MN 5XX
  26LE 4XX 1EX 1XX 26LE 11XX 56KA 2Extend 31LE 3XX 6LE 2XX 6LE 2XX 6LE 2XX 3LE 28XX 3FO 4XX
  12LE 1XX 26LE 1XX 19LE 1XX 2LE 1XX 15LE 2XX 14LE 34XX 123LE 69XX 53LE 136XX 1Extend 130XX
  29LE 3XX 49LE 15XX 1Extend 31XX 32LE 13XX 30LE 5XX 38LE 5Extend 5XX 30LE 2XX 36LE 4XX 8LE
  1XX 5LE 42XX 158LE 2XX 10NU 6XX 36LE 4XX 36LE 4XX 40LE 8XX 52LE 12XX 11LE 1XX 15LE 1XX 7LE
  1XX 2LE 1XX 11LE 1XX 15LE 1XX 7LE 1XX 2LE 3XX 52LE 12XX 311LE 9XX 22LE 10XX 8LE 24XX 6LE 1XX
  42LE 1XX 9LE 69XX 6LE 2XX 1LE 1XX 44LE 1XX 2LE 3XX 1LE 2XX 23LE 10XX 23LE 9XX 31LE 65XX 19LE
  1XX 2LE 10XX 22LE 10XX 26LE 70XX 56LE 6XX 2LE 64XX 1LE 3Extend 1XX 2Extend 5XX 4Extend 4LE
  1XX 3LE 1XX 29LE 2XX 3Extend 4XX 1Extend 32XX 29LE 3XX 29LE 35XX 8LE 1XX 28LE 2Extend 25XX
  54LE 10XX 22LE 10XX 19LE 13XX 18LE 110XX 73LE 55XX 51LE 13XX 51LE 13XX 36LE 4Extend 8XX 10NU
  6XX 10NU 28LE 3XX 5Extend 1XX 23LE 250XX 42LE 1XX 2Extend 3XX 2LE 16XX 3LE 55XX 4Extend 29LE
  10XX 1LE 8XX 22LE 11Extend 31XX 18LE 4Extend 42XX 21LE 27XX 23LE 9XX 3Extend 53LE 15Extend
  31XX 10NU 1Extend 2LE 2Extend 1LE 9XX 4Extend 45LE 11Extend 2XX 1NU 4XX 1Extend 10XX 1NU 2XX
  25LE 7XX 10NU 6XX 3Extend 36LE 14Extend 1XX 10NU 4XX 1LE 2Extend 1LE 8XX 35LE 1Extend 2XX
  1LE 9XX 3Extend 48LE 14Extend 4LE 4XX 4Extend 1XX 2Extend 10NU 1LE 1XX 1LE 35XX 18LE 1XX
  25LE 12Extend 6XX 1Extend 2LE 1Extend 62XX 7LE 1XX 1LE 1XX 4LE 1XX 15LE 1XX 10LE 7XX 47LE
  12Extend 5XX 10NU 6XX 4Extend 1XX 8LE 2XX 2LE 2XX 22LE 1XX 7LE 1XX 2LE 1XX 5LE 1XX 2Extend
  1LE 7Extend 2XX 2Extend 2XX 3Extend 2XX 1LE 6XX 1Extend 5XX 5LE 2Extend 2XX 7Extend 3XX
  5Extend 11XX 10LE 1XX 1LE 2XX 1LE 1XX 38LE 1XX 1LE 9Extend 1XX 1Extend 2XX 1Extend 1XX
  4Extend 1XX 5Extend 1LE 1Extend 1LE 13XX 2Extend 29XX 53LE 18Extend 4LE 5XX 10NU 4XX 1Extend
  3LE 30XX 48LE 20Extend 2LE 1XX 1LE 8XX 10NU 166XX 47LE 7Extend 2XX 9Extend 23XX 4LE 2Extend
  34XX 48LE 17Extend 3XX 1LE 11XX 10NU 38XX 43LE 13Extend 1LE 7XX 10NU 6XX 20NU 57XX 15Extend
  4XX 10NU 198XX 44LE 15Extend 101XX 64LE 10NU 21XX 8LE 2XX 1LE 2XX 8LE 1XX 2LE 1XX 24LE
  6Extend 1XX 2Extend 2XX 4Extend 1LE 1Extend 1LE 2Extend 12XX 10NU 70XX 8LE 2XX 39LE 7Extend
  2XX 7Extend 1LE 1XX 1LE 1Extend 27XX 1LE 10Extend 40LE 7Extend 1LE 4Extend 8XX 1Extend 8XX
  1LE 11Extend 46LE 16Extend 3XX 1LE 18XX 73LE 199XX 33LE 15XX 10NU 6XX 9LE 1XX 37LE 8Extend
  1XX 8Extend 1LE 15XX 10NU 24XX 30LE 2XX 22Extend 1XX 14Extend 73XX 7LE 1XX 2LE 1XX 38LE
  6Extend 3XX 1Extend 1XX 2Extend 1XX 7Extend 1LE 1Extend 8XX 10NU 6XX 6LE 1XX 2LE 1XX 32LE
  5Extend 1XX 2Extend 1XX 5Extend 1LE 7XX 10NU 310XX 19LE 4Extend 9XX 2Extend 1LE 1Extend 13LE
  1XX 34LE 7Extend 3XX 5Extend 13XX 10NU 1Extend 85XX 1LE 79XX 922LE 102XX 111LE 17XX 196LE
  2636XX 97LE 15XX 1072LE 16FO 1Extend 6LE 15Extend 10XX 3995LE 5XX 583LE 6841XX 30LE 18Extend
  10NU 1734XX 569LE 7XX 31LE 1XX 10NU 6XX 79LE 1XX 10NU 6XX 30LE 2XX 5Extend 11XX 48LE 7Extend
  9XX 4LE 12XX 10NU 9XX 21LE 5XX 19LE 432XX 45LE 3XX 10NU 198XX 64LE 128XX 75LE 4XX 1Extend
  1LE 55Extend 7XX 4Extend 13LE 64XX 2LE 1XX 1LE 1Extend 11XX 2Extend 16382XX 4KA 1XX 7KA 1XX
  2KA 1XX 1KA 287XX 3KA 50XX 1KA 14XX 4KA 2712XX 107LE 5XX 13LE 3XX 9LE 7XX 10LE 3XX 2Extend
  1XX 4FO 4172XX 10NU 518XX 46Extend 2XX 23Extend 542XX 5Extend 3XX 6Extend 8FO 8Extend 2XX
  7Extend 30XX 4Extend 148XX 3Extend 443XX 85LE 1XX 71LE 1XX 2LE 2XX 1LE 2XX 2LE 2XX 4LE 1XX
  12LE 1XX 1LE 1XX 7LE 1XX 65LE 1XX 4LE 2XX 8LE 1XX 7LE 1XX 28LE 1XX 4LE 1XX 5LE 1XX 1LE 3XX
  7LE 1XX 340LE 2XX 25LE 1XX 25LE 1XX 31LE 1XX 25LE 1XX 31LE 1XX 25LE 1XX 31LE 1XX 25LE 1XX
  31LE 1XX 25LE 1XX 8LE 2XX 50NU 512XX 55Extend 4XX 50Extend 8XX 1Extend 14XX 1Extend 22XX
  5Extend 1XX 15Extend 1104XX 31LE 6XX 6LE 213XX 7Extend 1XX 17Extend 2XX 7Extend 1XX 2Extend
  1XX 5Extend 5XX 62LE 33XX 1Extend 112XX 45LE 3XX 7Extend 7LE 2XX 10NU 4XX 1LE 321XX 30LE
  1Extend 17XX 44LE 4Extend 10NU 470XX 28LE 4Extend 10NU 214XX 30LE 2Extend 1LE 10NU 485XX 7LE
  1XX 4LE 1XX 2LE 1XX 15LE 1XX 197LE 11XX 7Extend 41XX 68LE 7Extend 1LE 4XX 10NU 1190XX 4LE
  1XX 27LE 1XX 2LE 1XX 1LE 2XX 1LE 1XX 10LE 1XX 4LE 1XX 1LE 1XX 1LE 6XX 1LE 4XX 1LE 1XX 1LE
  1XX 1LE 1XX 3LE 1XX 2LE 1XX 1LE 2XX 1LE 1XX 1LE 1XX 1LE 1XX 1LE 1XX 1LE 1XX 2LE 1XX 1LE 2XX
  4LE 1XX 7LE 1XX 4LE 1XX 4LE 1XX 1LE 1XX 10LE 1XX 17LE 5XX 3LE 1XX 5LE 1XX 17LE 628XX 26LE
  6XX 26LE 6XX 26LE 92XX 26RI 507XX 5Extend 2032XX 10NU 787463XX 1FO 30XX 96Extend 128XX
  240Extend 196112XX"

/-- The names of the values of words and their labels in the runs. -/
def wordBreakValues : List (List String × String) :=
  [ (["cr"], "CR"), (["dq", "doublequote"], "DQ"), (["ex", "extendnumlet"], "EX"),
    (["extend"], "Extend"), (["fo", "format"], "FO"), (["hl", "hebrewletter"], "HL"),
    (["ka", "katakana"], "KA"), (["le", "aletter"], "LE"), (["lf"], "LF"),
    (["mb", "midnumlet"], "MB"), (["ml", "midletter"], "ML"), (["mn", "midnum"], "MN"),
    (["nl", "newline"], "NL"), (["nu", "numeric"], "NU"), (["ri", "regionalindicator"], "RI"),
    (["sq", "singlequote"], "SQ"), (["wsegspace"], "WSegSpace"), (["zwj"], "ZWJ")]

/-- Runs of a length and a value. -/
def sentenceBreakRuns : String :=
  "9XX 1SP 1LF 2SP 1CR 18XX 1SP 1ST 1CL 4XX 3CL 2XX 2SC 1AT 1XX 10NU 1SC 4XX 1ST 1XX 26UP 1CL
  1XX 1CL 3XX 26LO 1CL 1XX 1CL 7XX 1SE 26XX 1SP 9XX 1LO 1CL 1XX 1FO 7XX 1LO 4XX 1LO 1CL 4XX
  23UP 1XX 7UP 24LO 1XX 8LO 1UP 1LO 1UP 1LO 1UP 1LO 1UP 1LO 1UP 1LO 1UP 1LO 1UP 1LO 1UP 1LO
  1UP 1LO 1UP 1LO 1UP 1LO 1UP 1LO 1UP 1LO 1UP 1LO 1UP 1LO 1UP 1LO 1UP 1LO 1UP 1LO 1UP 1LO 1UP
  1LO 1UP 1LO 1UP 1LO 1UP 1LO 1UP 1LO 1UP 1LO 1UP 1LO 1UP 1LO 1UP 2LO 1UP 1LO 1UP 1LO 1UP 1LO
  1UP 1LO 1UP 1LO 1UP 1LO 1UP 1LO 1UP 2LO 1UP 1LO 1UP 1LO 1UP 1LO 1UP 1LO 1UP 1LO 1UP 1LO 1UP
  1LO 1UP 1LO 1UP 1LO 1UP 1LO 1UP 1LO 1UP 1LO 1UP 1LO 1UP 1LO 1UP 1LO 1UP 1LO 1UP 1LO 1UP 1LO
  1UP 1LO 1UP 1LO 1UP 1LO 1UP 1LO 1UP 1LO 2UP 1LO 1UP 1LO 1UP 3LO 2UP 1LO 1UP 1LO 2UP 1LO 3UP
  2LO 4UP 1LO 2UP 1LO 3UP 3LO 2UP 1LO 2UP 1LO 1UP 1LO 1UP 1LO 2UP 1LO 1UP 2LO 1UP 1LO 2UP 1LO
  3UP 1LO 1UP 1LO 2UP 2LO 1LE 1UP 3LO 4LE 2UP 1LO 2UP 1LO 2UP 1LO 1UP 1LO 1UP 1LO 1UP 1LO 1UP
  1LO 1UP 1LO 1UP 1LO 1UP 1LO 1UP 2LO 1UP 1LO 1UP 1LO 1UP 1LO 1UP 1LO 1UP 1LO 1UP 1LO 1UP 1LO
  1UP 1LO 1UP 2LO 2UP 1LO 1UP 1LO 3UP 1LO 1UP 1LO 1UP 1LO 1UP 1LO 1UP 1LO 1UP 1LO 1UP 1LO 1UP
  1LO 1UP 1LO 1UP 1LO 1UP 1LO 1UP 1LO 1UP 1LO 1UP 1LO 1UP 1LO 1UP 1LO 1UP 1LO 1UP 1LO 1UP 1LO
  1UP 1LO 1UP 1LO 1UP 1LO 1UP 1LO 1UP 1LO 1UP 1LO 1UP 1LO 1UP 1LO 1UP 1LO 1UP 1LO 1UP 7LO 2UP
  1LO 2UP 2LO 1UP 1LO 4UP 1LO 1UP 1LO 1UP 1LO 1UP 1LO 1UP 69LO 1LE 36LO 7LE 2LO 4XX 12LE 14XX
  5LO 7XX 1LE 1XX 1LE 17XX 112EX 1UP 1LO 1UP 1LO 1LE 1XX 1UP 1LO 2XX 4LO 1XX 1UP 6XX 1UP 1XX
  3UP 1XX 1UP 1XX 2UP 1LO 17UP 1XX 9UP 35LO 1UP 2LO 3UP 3LO 1UP 1LO 1UP 1LO 1UP 1LO 1UP 1LO
  1UP 1LO 1UP 1LO 1UP 1LO 1UP 1LO 1UP 1LO 1UP 1LO 1UP 1LO 1UP 5LO 1UP 1LO 1XX 1UP 1LO 2UP 2LO
  51UP 48LO 1UP 1LO 1UP 1LO 1UP 1LO 1UP 1LO 1UP 1LO 1UP 1LO 1UP 1LO 1UP 1LO 1UP 1LO 1UP 1LO
  1UP 1LO 1UP 1LO 1UP 1LO 1UP 1LO 1UP 1LO 1UP 1LO 1UP 1LO 1XX 7EX 1UP 1LO 1UP 1LO 1UP 1LO 1UP
  1LO 1UP 1LO 1UP 1LO 1UP 1LO 1UP 1LO 1UP 1LO 1UP 1LO 1UP 1LO 1UP 1LO 1UP 1LO 1UP 1LO 1UP 1LO
  1UP 1LO 1UP 1LO 1UP 1LO 1UP 1LO 1UP 1LO 1UP 1LO 1UP 1LO 1UP 1LO 1UP 1LO 1UP 1LO 1UP 1LO 1UP
  1LO 2UP 1LO 1UP 1LO 1UP 1LO 1UP 1LO 1UP 1LO 1UP 1LO 1UP 2LO 1UP 1LO 1UP 1LO 1UP 1LO 1UP 1LO
  1UP 1LO 1UP 1LO 1UP 1LO 1UP 1LO 1UP 1LO 1UP 1LO 1UP 1LO 1UP 1LO 1UP 1LO 1UP 1LO 1UP 1LO 1UP
  1LO 1UP 1LO 1UP 1LO 1UP 1LO 1UP 1LO 1UP 1LO 1UP 1LO 1UP 1LO 1UP 1LO 1UP 1LO 1UP 1LO 1UP 1LO
  1UP 1LO 1UP 1LO 1UP 1LO 1UP 1LO 1UP 1LO 1UP 1LO 1UP 1LO 1UP 1LO 1UP 1LO 1UP 1LO 1UP 1LO 1UP
  1LO 1UP 1LO 1UP 1LO 1UP 1LO 1UP 1LO 1UP 1LO 1UP 1LO 1UP 1LO 1UP 1LO 1UP 1LO 1XX 38UP 2XX 1LE
  3XX 1SC 2XX 41LO 1ST 7XX 45EX 1XX 1EX 1XX 2EX 1XX 2EX 1XX 1EX 8XX 27LE 4XX 5LE 12XX 6NU 6XX
  2SC 2XX 11EX 1XX 1FO 3ST 43LE 21EX 10NU 1XX 2NU 1XX 2LE 1EX 99LE 1ST 1LE 7EX 1NU 1XX 6EX 2LE
  2EX 1XX 4EX 2LE 10NU 3LE 2XX 1LE 3ST 12XX 1FO 1LE 1EX 30LE 27EX 2XX 89LE 11EX 1LE 14XX 10NU
  33LE 9EX 2LE 2XX 1SC 1ST 1LE 2XX 1EX 2XX 22LE 4EX 1LE 9EX 1LE 3EX 1LE 5EX 9XX 1ST 1XX 1ST
  3XX 2ST 1XX 25LE 3EX 4XX 11LE 5XX 24LE 1XX 6LE 1XX 2NU 5XX 9EX 42LE 24EX 1NU 33EX 54LE 3EX
  1LE 18EX 1LE 7EX 10LE 2EX 2ST 10NU 1XX 16LE 3EX 1XX 8LE 2XX 2LE 2XX 22LE 1XX 7LE 1XX 1LE 3XX
  4LE 2XX 1EX 1LE 7EX 2XX 2EX 2XX 3EX 1LE 8XX 1EX 4XX 2LE 1XX 3LE 2EX 2XX 10NU 2LE 10XX 1LE
  1XX 1EX 2XX 3EX 1XX 6LE 4XX 2LE 2XX 22LE 1XX 7LE 1XX 2LE 1XX 2LE 1XX 2LE 2XX 1EX 1XX 5EX 4XX
  2EX 2XX 3EX 3XX 1EX 7XX 4LE 1XX 1LE 7XX 10NU 2EX 3LE 1EX 11XX 3EX 1XX 9LE 1XX 3LE 1XX 22LE
  1XX 7LE 1XX 2LE 1XX 5LE 2XX 1EX 1LE 8EX 1XX 3EX 1XX 3EX 2XX 1LE 15XX 2LE 2EX 2XX 10NU 9XX
  1LE 6EX 1XX 3EX 1XX 8LE 2XX 2LE 2XX 22LE 1XX 7LE 1XX 2LE 1XX 5LE 2XX 1EX 1LE 7EX 2XX 2EX 2XX
  3EX 7XX 3EX 4XX 2LE 1XX 3LE 2EX 2XX 10NU 1XX 1LE 16XX 1EX 1LE 1XX 6LE 3XX 3LE 1XX 4LE 3XX
  2LE 1XX 1LE 1XX 2LE 3XX 2LE 3XX 3LE 3XX 12LE 4XX 5EX 3XX 3EX 1XX 4EX 2XX 1LE 6XX 1EX 14XX
  10NU 16XX 5EX 8LE 1XX 3LE 1XX 23LE 1XX 16LE 2XX 1EX 1LE 7EX 1XX 3EX 1XX 4EX 7XX 2EX 1XX 3LE
  2XX 1LE 2XX 2LE 2EX 2XX 10NU 16XX 1LE 3EX 1XX 8LE 1XX 3LE 1XX 23LE 1XX 10LE 1XX 5LE 2XX 1EX
  1LE 7EX 1XX 3EX 1XX 4EX 7XX 2EX 6XX 2LE 1XX 2LE 2EX 2XX 10NU 1XX 2LE 1EX 12XX 4EX 9LE 1XX
  3LE 1XX 41LE 2EX 1LE 7EX 1XX 3EX 1XX 4EX 1LE 5XX 3LE 1EX 7XX 3LE 2EX 2XX 10NU 10XX 6LE 1XX
  3EX 1XX 18LE 3XX 24LE 1XX 9LE 1XX 1LE 2XX 7LE 3XX 1EX 4XX 6EX 1XX 1EX 1XX 8EX 6XX 10NU 2XX
  2EX 13XX 48LE 1EX 2LE 7EX 5XX 7LE 8EX 1XX 10NU 39XX 2LE 1XX 1LE 1XX 5LE 1XX 24LE 1XX 1LE 1XX
  10LE 1EX 2LE 9EX 1LE 2XX 5LE 1XX 1LE 1XX 7EX 1XX 10NU 2XX 4LE 32XX 1LE 23XX 2EX 6XX 10NU
  11XX 1EX 1XX 1EX 1XX 1EX 4CL 2EX 8LE 1XX 36LE 4XX 20EX 1XX 2EX 5LE 11EX 1XX 36EX 9XX 1EX
  57XX 43LE 20EX 1LE 10NU 2ST 4XX 6LE 4EX 4LE 3EX 1LE 3EX 2LE 7EX 3LE 4EX 13LE 12EX 1LE 1EX
  10NU 4EX 2XX 38UP 1XX 1UP 5XX 1UP 2XX 43LE 1XX 1LO 332LE 1XX 4LE 2XX 7LE 1XX 1LE 1XX 4LE 2XX
  41LE 1XX 4LE 2XX 33LE 1XX 4LE 2XX 7LE 1XX 1LE 1XX 4LE 2XX 15LE 1XX 57LE 1XX 4LE 2XX 67LE 2XX
  3EX 2XX 1ST 4XX 2ST 23XX 16LE 16XX 86UP 2XX 6LO 3XX 620LE 1XX 1ST 17LE 1SP 26LE 2CL 3XX 75LE
  3XX 11LE 7XX 18LE 4EX 9XX 19LE 3EX 2ST 9XX 18LE 2EX 12XX 13LE 1XX 3LE 1XX 2EX 12XX 52LE 32EX
  2ST 1XX 1LE 4XX 1LE 1EX 2XX 10NU 24XX 1SC 1ST 4XX 1SC 1ST 1XX 3EX 1FO 1EX 10NU 6XX 89LE 7XX
  5LE 2EX 34LE 1EX 1LE 5XX 70LE 10XX 31LE 1XX 12EX 4XX 12EX 8XX 2ST 10NU 30LE 2XX 5LE 11XX
  44LE 4XX 26LE 6XX 10NU 38XX 23LE 5EX 4XX 53LE 10EX 1XX 29EX 2XX 1EX 10NU 6XX 10NU 13XX 1LE
  4ST 4XX 31EX 49XX 5EX 47LE 17EX 8LE 1XX 2ST 10NU 2ST 2XX 2ST 11XX 9EX 9XX 3ST 3EX 30LE 13EX
  2LE 10NU 44LE 14EX 12XX 36LE 20EX 3XX 2ST 3XX 10NU 3XX 3LE 10NU 36LE 2ST 9LO 1UP 1LO 5XX
  43LE 2XX 3LE 16XX 3EX 1XX 21EX 4LE 1EX 6LE 1EX 2LE 3EX 1LE 5XX 192LO 64EX 1UP 1LO 1UP 1LO
  1UP 1LO 1UP 1LO 1UP 1LO 1UP 1LO 1UP 1LO 1UP 1LO 1UP 1LO 1UP 1LO 1UP 1LO 1UP 1LO 1UP 1LO 1UP
  1LO 1UP 1LO 1UP 1LO 1UP 1LO 1UP 1LO 1UP 1LO 1UP 1LO 1UP 1LO 1UP 1LO 1UP 1LO 1UP 1LO 1UP 1LO
  1UP 1LO 1UP 1LO 1UP 1LO 1UP 1LO 1UP 1LO 1UP 1LO 1UP 1LO 1UP 1LO 1UP 1LO 1UP 1LO 1UP 1LO 1UP
  1LO 1UP 1LO 1UP 1LO 1UP 1LO 1UP 1LO 1UP 1LO 1UP 1LO 1UP 1LO 1UP 1LO 1UP 1LO 1UP 1LO 1UP 1LO
  1UP 1LO 1UP 1LO 1UP 1LO 1UP 1LO 1UP 1LO 1UP 1LO 1UP 1LO 1UP 1LO 1UP 1LO 1UP 1LO 1UP 1LO 1UP
  1LO 1UP 1LO 1UP 1LO 1UP 1LO 1UP 1LO 1UP 1LO 1UP 1LO 1UP 1LO 1UP 1LO 1UP 1LO 1UP 1LO 1UP 1LO
  1UP 1LO 1UP 1LO 1UP 1LO 1UP 9LO 1UP 1LO 1UP 1LO 1UP 1LO 1UP 1LO 1UP 1LO 1UP 1LO 1UP 1LO 1UP
  1LO 1UP 1LO 1UP 1LO 1UP 1LO 1UP 1LO 1UP 1LO 1UP 1LO 1UP 1LO 1UP 1LO 1UP 1LO 1UP 1LO 1UP 1LO
  1UP 1LO 1UP 1LO 1UP 1LO 1UP 1LO 1UP 1LO 1UP 1LO 1UP 1LO 1UP 1LO 1UP 1LO 1UP 1LO 1UP 1LO 1UP
  1LO 1UP 1LO 1UP 1LO 1UP 1LO 1UP 1LO 1UP 1LO 1UP 1LO 1UP 1LO 1UP 1LO 1UP 1LO 1UP 1LO 1UP 1LO
  1UP 1LO 1UP 1LO 1UP 1LO 1UP 1LO 1UP 1LO 1UP 1LO 1UP 9LO 8UP 6LO 2XX 6UP 2XX 8LO 8UP 8LO 8UP
  6LO 2XX 6UP 2XX 8LO 1XX 1UP 1XX 1UP 1XX 1UP 1XX 1UP 8LO 8UP 14LO 2XX 8LO 8UP 8LO 8UP 8LO 8UP
  5LO 1XX 2LO 5UP 1XX 1LO 3XX 3LO 1XX 2LO 5UP 3XX 4LO 2XX 2LO 4UP 4XX 8LO 5UP 5XX 3LO 1XX 2LO
  5UP 3XX 11SP 1FO 2EX 2FO 3XX 2SC 3XX 8CL 4XX 1AT 3XX 2SE 5FO 1SP 9XX 2CL 1XX 2ST 7XX 2CL 3ST
  21XX 1SP 5FO 1XX 10FO 1XX 1LO 11XX 2CL 1LO 13XX 2CL 1XX 13LO 51XX 33EX 17XX 1UP 4XX 1UP 2XX
  1LO 3UP 2LO 3UP 1LO 1XX 1UP 3XX 5UP 6XX 1UP 1XX 1UP 1XX 1UP 1XX 4UP 1XX 1LO 4UP 1LO 4LE 1LO
  2XX 2LO 2UP 5XX 1UP 4LO 4XX 1LO 17XX 16UP 16LO 3LE 1UP 1LO 4LE 383XX 4CL 29XX 2CL 395XX 26UP
  26LO 625XX 6CL 7XX 14CL 79XX 2CL 31XX 10CL 403XX 22CL 63XX 4CL 32XX 2CL 514XX 48UP 48LO 1UP
  1LO 3UP 2LO 1UP 1LO 1UP 1LO 1UP 1LO 4UP 1LO 1UP 2LO 1UP 8LO 3UP 1LO 1UP 1LO 1UP 1LO 1UP 1LO
  1UP 1LO 1UP 1LO 1UP 1LO 1UP 1LO 1UP 1LO 1UP 1LO 1UP 1LO 1UP 1LO 1UP 1LO 1UP 1LO 1UP 1LO 1UP
  1LO 1UP 1LO 1UP 1LO 1UP 1LO 1UP 1LO 1UP 1LO 1UP 1LO 1UP 1LO 1UP 1LO 1UP 1LO 1UP 1LO 1UP 1LO
  1UP 1LO 1UP 1LO 1UP 1LO 1UP 1LO 1UP 1LO 1UP 1LO 1UP 1LO 1UP 1LO 1UP 1LO 1UP 1LO 1UP 1LO 1UP
  1LO 1UP 1LO 1UP 1LO 1UP 1LO 1UP 1LO 1UP 1LO 1UP 1LO 1UP 1LO 1UP 1LO 1UP 1LO 1UP 1LO 1UP 2LO
  6XX 1UP 1LO 1UP 1LO 3EX 1UP 1LO 5XX 3ST 4XX 38LO 1XX 1LO 5XX 1LO 2XX 56LE 7XX 1LE 15XX 1EX
  23LE 9XX 7LE 1XX 7LE 1XX 7LE 1XX 7LE 1XX 7LE 1XX 7LE 1XX 7LE 1XX 7LE 1XX 32EX 14CL 14XX 2CL
  2XX 10CL 4XX 1ST 1LE 12XX 1ST 5XX 1CL 16XX 2ST 8CL 419XX 1SP 1SC 1ST 2XX 3LE 10CL 2XX 8CL
  1XX 3CL 1XX 9LE 6EX 1XX 5LE 2XX 5LE 4XX 86LE 2XX 2EX 2XX 3LE 1XX 90LE 1XX 4LE 5XX 43LE 1XX
  94LE 17XX 32LE 48XX 16LE 512XX 6592LE 64XX 22157LE 67XX 46LE 1XX 1ST 269LE 1XX 2ST 16LE 10NU
  2LE 20XX 1UP 1LO 1UP 1LO 1UP 1LO 1UP 1LO 1UP 1LO 1UP 1LO 1UP 1LO 1UP 1LO 1UP 1LO 1UP 1LO 1UP
  1LO 1UP 1LO 1UP 1LO 1UP 1LO 1UP 1LO 1UP 1LO 1UP 1LO 1UP 1LO 1UP 1LO 1UP 1LO 1UP 1LO 1UP 1LO
  1UP 1LO 1LE 4EX 1XX 10EX 1XX 1LE 1UP 1LO 1UP 1LO 1UP 1LO 1UP 1LO 1UP 1LO 1UP 1LO 1UP 1LO 1UP
  1LO 1UP 1LO 1UP 1LO 1UP 1LO 1UP 1LO 1UP 1LO 1UP 3LO 2EX 80LE 2EX 1XX 1ST 3XX 1ST 31XX 9LE
  2XX 1UP 1LO 1UP 1LO 1UP 1LO 1UP 1LO 1UP 1LO 1UP 1LO 1UP 3LO 1UP 1LO 1UP 1LO 1UP 1LO 1UP 1LO
  1UP 1LO 1UP 1LO 1UP 1LO 1UP 1LO 1UP 1LO 1UP 1LO 1UP 1LO 1UP 1LO 1UP 1LO 1UP 1LO 1UP 1LO 1UP
  1LO 1UP 1LO 1UP 1LO 1UP 1LO 1UP 1LO 1UP 1LO 1UP 1LO 1UP 1LO 1UP 1LO 1UP 1LO 1UP 1LO 1UP 1LO
  1UP 1LO 1UP 1LO 1UP 1LO 1UP 10LO 1UP 1LO 1UP 1LO 2UP 1LO 1UP 1LO 1UP 1LO 1UP 1LO 1UP 1LO 1LE
  2XX 1UP 1LO 1UP 1LO 1LE 1UP 1LO 1UP 3LO 1UP 1LO 1UP 1LO 1UP 1LO 1UP 1LO 1UP 1LO 1UP 1LO 1UP
  1LO 1UP 1LO 1UP 1LO 1UP 1LO 5UP 1LO 5UP 1LO 1UP 1LO 1UP 1LO 1UP 1LO 1UP 1LO 1UP 1LO 1UP 1LO
  1UP 1LO 4UP 1LO 1UP 1LO 2UP 1LO 2XX 1UP 1LO 1XX 1LO 1XX 1LO 1UP 1LO 1UP 1LO 1UP 1LO 1UP 21XX
  3LO 1UP 1LO 1LE 3LO 7LE 1EX 3LE 1EX 4LE 1EX 23LE 5EX 4XX 1EX 19XX 52LE 2XX 2ST 8XX 2EX 50LE
  18EX 8XX 2ST 10NU 6XX 18EX 6LE 3XX 1LE 1XX 2LE 1EX 10NU 28LE 8EX 1XX 1ST 23LE 13EX 12XX 29LE
  3XX 4EX 47LE 14EX 7XX 2ST 5XX 1LE 10NU 6XX 5LE 1EX 10LE 10NU 5LE 1XX 41LE 14EX 9XX 3LE 1EX
  8LE 2EX 2XX 10NU 3XX 3ST 23LE 3XX 1LE 3EX 50LE 1EX 1LE 3EX 2LE 2EX 5LE 2EX 1LE 1EX 1LE 24XX
  3LE 2XX 11LE 5EX 2ST 3LE 2EX 10XX 6LE 2XX 6LE 2XX 6LE 9XX 7LE 1XX 7LE 1XX 43LO 1XX 14LO 6XX
  80LO 35LE 8EX 1ST 2EX 2XX 10NU 6XX 11172LE 12XX 23LE 4XX 49LE 8452XX 366LE 2XX 106LE 38XX
  7LO 12XX 5LO 5XX 1LE 1EX 10LE 1XX 13LE 1XX 5LE 1XX 1LE 1XX 2LE 1XX 2LE 1XX 108LE 33XX 363LE
  2CL 16XX 64LE 2XX 54LE 40XX 12LE 4XX 16EX 2SC 1ST 1SC 1XX 2ST 2CL 7XX 16EX 1XX 2SC 2XX 16CL
  2XX 2CL 7XX 2SC 1AT 2XX 1SC 2ST 1SC 6CL 4XX 1SC 12XX 5LE 1XX 135LE 2XX 1FO 1XX 1ST 6XX 2CL
  2XX 2SC 1AT 1XX 10NU 1SC 4XX 1ST 1XX 26UP 1CL 1XX 1CL 3XX 26LO 1CL 1XX 1CL 1XX 2CL 1ST 2CL
  1SC 1XX 56LE 2EX 31LE 3XX 6LE 2XX 6LE 2XX 6LE 2XX 3LE 28XX 3FO 4XX 12LE 1XX 26LE 1XX 19LE
  1XX 2LE 1XX 15LE 2XX 14LE 34XX 123LE 69XX 53LE 136XX 1EX 130XX 29LE 3XX 49LE 15XX 1EX 31XX
  32LE 13XX 30LE 5XX 38LE 5EX 5XX 30LE 2XX 36LE 4XX 8LE 1XX 5LE 42XX 40UP 40LO 78LE 2XX 10NU
  6XX 36UP 4XX 36LO 4XX 40LE 8XX 52LE 12XX 11UP 1XX 15UP 1XX 7UP 1XX 2UP 1XX 11LO 1XX 15LO 1XX
  7LO 1XX 2LO 3XX 52LE 12XX 311LE 9XX 22LE 10XX 8LE 24XX 1LO 2LE 3LO 1XX 42LO 1XX 9LO 69XX 6LE
  2XX 1LE 1XX 44LE 1XX 2LE 3XX 1LE 2XX 23LE 10XX 23LE 9XX 31LE 65XX 19LE 1XX 2LE 10XX 22LE
  10XX 26LE 70XX 56LE 6XX 2LE 64XX 1LE 3EX 1XX 2EX 5XX 4EX 4LE 1XX 3LE 1XX 29LE 2XX 3EX 4XX
  1EX 22XX 2ST 8XX 29LE 3XX 29LE 35XX 8LE 1XX 28LE 2EX 25XX 54LE 10XX 22LE 10XX 19LE 13XX 18LE
  110XX 73LE 55XX 51UP 13XX 51LO 13XX 36LE 4EX 8XX 10NU 6XX 10NU 6LE 22UP 3XX 5EX 1XX 1LE 22LO
  250XX 42LE 1XX 2EX 3XX 2LE 16XX 3LE 55XX 4EX 29LE 10XX 1LE 8XX 22LE 11EX 4XX 5ST 22XX 18LE
  4EX 4ST 38XX 21LE 27XX 23LE 9XX 3EX 53LE 15EX 2ST 29XX 10NU 1EX 2LE 2EX 1LE 9XX 4EX 45LE
  11EX 2XX 1NU 4ST 1EX 10XX 1NU 2XX 25LE 7XX 10NU 6XX 3EX 36LE 14EX 1XX 10NU 1XX 3ST 1LE 2EX
  1LE 8XX 35LE 1EX 2XX 1LE 9XX 3EX 48LE 14EX 4LE 2ST 2XX 4EX 1ST 2EX 10NU 1LE 1XX 1LE 1XX 2ST
  32XX 18LE 1XX 25LE 12EX 2ST 1XX 2ST 1XX 1EX 2LE 1EX 62XX 7LE 1XX 1LE 1XX 4LE 1XX 15LE 1XX
  10LE 1ST 6XX 47LE 12EX 5XX 10NU 6XX 4EX 1XX 8LE 2XX 2LE 2XX 22LE 1XX 7LE 1XX 2LE 1XX 5LE 1XX
  2EX 1LE 7EX 2XX 2EX 2XX 3EX 2XX 1LE 6XX 1EX 5XX 5LE 2EX 2XX 7EX 3XX 5EX 11XX 10LE 1XX 1LE
  2XX 1LE 1XX 38LE 1XX 1LE 9EX 1XX 1EX 2XX 1EX 1XX 4EX 1XX 5EX 1LE 1EX 1LE 2ST 11XX 2EX 29XX
  53LE 18EX 4LE 2ST 3XX 10NU 4XX 1EX 3LE 30XX 48LE 20EX 2LE 1XX 1LE 8XX 10NU 166XX 47LE 7EX
  2XX 9EX 1XX 2ST 5XX 15ST 4LE 2EX 34XX 48LE 17EX 2ST 1XX 1LE 11XX 10NU 38XX 43LE 13EX 1LE 7XX
  10NU 6XX 20NU 28XX 27LE 2XX 15EX 4XX 10NU 2XX 3ST 1XX 7LE 185XX 44LE 15EX 101XX 32UP 32LO
  10NU 21XX 8LE 2XX 1LE 2XX 8LE 1XX 2LE 1XX 24LE 6EX 1XX 2EX 2XX 4EX 1LE 1EX 1LE 2EX 1ST 1XX
  1ST 9XX 10NU 70XX 8LE 2XX 39LE 7EX 2XX 7EX 1LE 1XX 1LE 1EX 27XX 1LE 10EX 40LE 7EX 1LE 4EX
  3XX 2ST 3XX 1EX 8XX 1LE 11EX 46LE 16EX 1XX 2ST 1LE 18XX 73LE 199XX 33LE 15XX 10NU 6XX 9LE
  1XX 37LE 8EX 1XX 8EX 1LE 2ST 13XX 10NU 24XX 30LE 2XX 22EX 1XX 14EX 73XX 7LE 1XX 2LE 1XX 38LE
  6EX 3XX 1EX 1XX 2EX 1XX 7EX 1LE 1EX 8XX 10NU 6XX 6LE 1XX 2LE 1XX 32LE 5EX 1XX 2EX 1XX 5EX
  1LE 7XX 10NU 310XX 19LE 4EX 2ST 7XX 2EX 1LE 1EX 13LE 1XX 34LE 7EX 3XX 5EX 2ST 11XX 10NU 1EX
  85XX 1LE 79XX 922LE 102XX 111LE 17XX 196LE 2636XX 97LE 15XX 1072LE 16FO 1EX 6LE 15EX 10XX
  3995LE 5XX 583LE 6841XX 30LE 18EX 10NU 1734XX 569LE 7XX 31LE 1XX 10NU 4XX 2ST 79LE 1XX 10NU
  6XX 30LE 2XX 5EX 1ST 10XX 48LE 7EX 2ST 7XX 4LE 1ST 11XX 10NU 9XX 21LE 5XX 19LE 432XX 45LE
  1XX 2ST 10NU 198XX 32UP 32LO 24XX 1ST 103XX 75LE 4XX 1EX 1LE 55EX 7XX 4EX 13LE 64XX 2LE 1XX
  1LE 1EX 11XX 2EX 14XX 6136LE 8XX 1238LE 41XX 10LE 8935XX 4LE 1XX 7LE 1XX 2LE 1XX 291LE 15XX
  1LE 29XX 3LE 2XX 1LE 14XX 4LE 8XX 396LE 2308XX 107LE 5XX 13LE 3XX 9LE 7XX 10LE 3XX 2EX 1ST
  4FO 4172XX 10NU 518XX 46EX 2XX 23EX 542XX 5EX 3XX 6EX 8FO 8EX 2XX 7EX 30XX 4EX 148XX 3EX
  443XX 26UP 26LO 26UP 7LO 1XX 18LO 26UP 26LO 1UP 1XX 2UP 2XX 1UP 2XX 2UP 2XX 4UP 1XX 8UP 4LO
  1XX 1LO 1XX 7LO 1XX 11LO 26UP 26LO 2UP 1XX 4UP 2XX 8UP 1XX 7UP 1XX 26LO 2UP 1XX 4UP 1XX 5UP
  1XX 1UP 3XX 7UP 1XX 26LO 26UP 26LO 26UP 26LO 26UP 26LO 26UP 26LO 26UP 26LO 26UP 28LO 2XX
  25UP 1XX 25LO 1XX 6LO 25UP 1XX 25LO 1XX 6LO 25UP 1XX 25LO 1XX 6LO 25UP 1XX 25LO 1XX 6LO 25UP
  1XX 25LO 1XX 6LO 1UP 1LO 2XX 50NU 512XX 55EX 4XX 50EX 8XX 1EX 14XX 1EX 3XX 1ST 18XX 5EX 1XX
  15EX 1104XX 10LO 1LE 20LO 6XX 6LO 213XX 7EX 1XX 17EX 2XX 7EX 1XX 2EX 1XX 5EX 5XX 62LO 33XX
  1EX 112XX 45LE 3XX 7EX 7LE 2XX 10NU 4XX 1LE 321XX 30LE 1EX 17XX 44LE 4EX 10NU 470XX 28LE 4EX
  10NU 214XX 30LE 2EX 1LE 10NU 485XX 7LE 1XX 4LE 1XX 2LE 1XX 15LE 1XX 197LE 11XX 7EX 41XX 34UP
  34LO 7EX 1LE 4XX 10NU 1190XX 4LE 1XX 27LE 1XX 2LE 1XX 1LE 2XX 1LE 1XX 10LE 1XX 4LE 1XX 1LE
  1XX 1LE 6XX 1LE 4XX 1LE 1XX 1LE 1XX 1LE 1XX 3LE 1XX 2LE 1XX 1LE 2XX 1LE 1XX 1LE 1XX 1LE 1XX
  1LE 1XX 1LE 1XX 2LE 1XX 1LE 2XX 4LE 1XX 7LE 1XX 4LE 1XX 4LE 1XX 1LE 1XX 10LE 1XX 17LE 5XX
  3LE 1XX 5LE 1XX 17LE 628XX 26UP 6XX 26UP 6XX 26UP 1260XX 3CL 1399XX 10NU 1030XX 42720LE 32XX
  4154LE 6XX 222LE 2XX 5762LE 14XX 7473LE 15XX 622LE 2466XX 542LE 1506XX 4939LE 5XX 4192LE
  711761XX 1FO 30XX 96EX 128XX 240EX 196112XX"

/-- The names of the values of sentences and their labels in the runs. -/
def sentenceBreakValues : List (List String × String) :=
  [ (["at", "aterm"], "AT"), (["cl", "close"], "CL"), (["cr"], "CR"), (["ex", "extend"], "EX"),
    (["fo", "format"], "FO"), (["le", "oletter"], "LE"), (["lf"], "LF"), (["lo", "lower"], "LO"),
    (["nu", "numeric"], "NU"), (["sc", "scontinue"], "SC"), (["se", "sep"], "SE"), (["sp"], "SP"),
    (["st", "sterm"], "ST"), (["up", "upper"], "UP")]

end TypedJson.Unicode
