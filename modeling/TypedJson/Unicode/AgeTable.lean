namespace TypedJson.Unicode

/-- The versions of the standard, oldest first, each with its letter in the runs. -/
def versionLetters : List (String × String) :=
  [ ("1.1", "A"), ("2.0", "B"), ("2.1", "C"), ("3.0", "D"), ("3.1", "E"), ("3.2", "F"),
    ("4.0", "G"), ("4.1", "H"), ("5.0", "I"), ("5.1", "J"), ("5.2", "K"), ("6.0", "L"),
    ("6.1", "M"), ("6.2", "N"), ("6.3", "O"), ("7.0", "P"), ("8.0", "Q"), ("9.0", "R"),
    ("10.0", "S"), ("11.0", "T"), ("12.0", "U"), ("12.1", "V"), ("13.0", "W"), ("14.0", "X"),
    ("15.0", "Y"), ("15.1", "Z"), ("16.0", "a")]

/-- The version of the standard in which each code point was assigned, as runs of a length and the
letter of a version, or `x` for no version. -/
def ageRuns : String :=
  "502A 4D 30A 8D 1F 1G 18D 3G 11H 14I 89A 5D 2G 47A 1D 10A 5D 17G 70A 9D 1F 8G 5H 3G 2A 1D 13F
  4J 2A 2J 2x 1A 3I 1A 1P 4x 7A 1x 1A 1x 20A 1x 44A 1J 7A 1D 2F 1A 1D 1A 1D 1A 1D 1A 1D 18A 2E
  1F 5G 4H 1D 12A 1D 66A 1D 12A 1D 41A 1J 2D 2F 4D 53A 2F 2A 2F 2A 2F 1I 28A 2D 8A 2H 2A 6I
  16F 4I 16J 2K 2L 8P 1x 38A 2x 7A 1T 39A 1T 1A 1D 2x 2P 1M 1x 17B 1H 13B 10A 1I 9A 1B 3H 8x
  27A 4x 1T 5A 11x 4G 1M 1P 5J 1H 1A 9G 5J 1A 1O 1X 1H 1A 1L 26A 5J 19A 3D 3G 6H 1L 14A 2F 72A
  2D 5A 1D 15A 1D 30A 2G 10A 5D 1G 14D 1x 30D 3G 27D 2x 3G 30H 18J 49D 1F 14x 59I 2x 3T 46K 2x
  15K 1x 28L 2x 1L 1x 11S 5x 31X 1x 2X 5x 1a 8X 1M 1P 11M 6P 2Q 1X 8R 10W 11X 1T 15R 1Q 27M 1P
  1K 3A 1G 53A 2L 18A 1K 1L 5A 1K 2L 25A 2J 5L 1P 2K 2I 1H 2I 1P 3A 1x 8A 2x 2A 2x 22A 1x 7A
  1x 1A 3x 4A 2x 1A 1G 7A 2x 2A 2x 3A 1H 8x 1A 4x 2A 1x 5A 2x 21A 1K 2S 1T 2x 1G 1A 1G 1x 6A
  4x 2A 2x 22A 1x 7A 1x 2A 1x 2A 1x 2A 2x 1A 1x 5A 4x 2A 2x 3A 3x 1J 7x 4A 1x 1A 7x 15A 1J 1T
  10x 3A 1x 7A 1G 1A 1x 3A 1x 22A 1x 7A 1x 2A 1x 5A 2x 10A 1x 3A 1x 3A 2x 1A 15x 1A 3G 2x 10A
  1M 1G 7x 1Q 6S 1x 3A 1x 8A 2x 2A 2x 22A 1x 7A 1x 2A 1x 1G 4A 2x 8A 1J 2x 2A 2x 3A 7x 1W 2A
  4x 2A 1x 3A 2J 2x 11A 1G 6L 10x 2A 1x 6A 3x 3A 1x 4A 3x 2A 1x 1A 1x 2A 3x 2A 3x 3A 3x 8A 1H
  3A 4x 5A 3x 3A 1x 4A 2x 1J 6x 1A 14x 1H 12A 8G 5x 1P 3A 1T 8A 1x 3A 1x 23A 1x 10A 1P 5A 2x
  1X 1J 7A 1x 3A 1x 4A 7x 2A 1x 2J 1Q 2x 1X 2x 2A 2J 2x 10A 7x 1U 8J 1R 1P 2A 1T 8A 1x 3A 1x
  23A 1x 10A 1x 5A 2x 2G 7A 1x 3A 1x 4A 7x 2A 6x 1X 1A 1x 2A 2I 2x 10A 1x 2I 1Y 12x 1S 1P 2A
  1W 8A 1x 3A 1x 23A 1L 16A 1L 2S 1J 6A 1J 1x 3A 1x 4A 1L 1R 4x 3R 1A 7R 1Q 2A 2J 2x 10A 6J 3R
  7J 1x 1W 2D 1x 18D 3x 24D 1x 9D 1x 1D 2x 7D 3x 1D 4x 6D 1x 1D 1x 8D 6x 10P 2x 3D 12x 58A 4x
  29A 37x 2A 1x 1A 1x 1U 2A 1U 1A 1x 1U 1A 6U 4A 1U 7A 1U 3A 1x 1A 1x 1A 2U 2A 1U 13A 1U 3A 2x
  5A 1x 1A 1x 6A 1Y 1x 10A 2x 2A 2M 32x 72B 1x 33B 1D 2J 4x 27B 4L 6B 1D 1B 1x 21B 3D 7B 1D 1B
  3D 1x 15D 1x 1J 1D 2H 3J 4K 2L 37x 34D 1J 5D 1J 2D 1J 7D 3J 4D 6J 26D 64J 4K 2J 38A 1x 1M 5x
  1M 2x 39A 2F 2H 1A 1H 3M 90A 5K 68A 5K 82A 6K 7D 1H 63D 1H 1D 1x 4D 2x 7D 1x 1D 1x 4D 2x 39D
  1H 1D 1x 4D 2x 31D 1H 1D 1x 4D 2x 7D 1x 1D 1x 4D 2x 7D 1H 7D 1x 23D 1H 31D 1H 1D 1x 4D 2x 7D
  1H 39D 1H 19D 2x 2L 2H 28D 3x 26H 6x 85D 1Q 2x 6Q 2x 1K 630D 9K 29D 3x 81D 8P 7x 13F 1X 7F
  1X 9x 1X 23F 9x 20F 12x 13F 1x 3F 1x 2F 12x 93D 1G 2x 10D 6x 10G 6x 15D 1X 10D 6x 88D 1T 7x
  42D 1J 5x 70K 10x 29G 2P 1x 12G 4x 12G 4x 1G 3x 42G 2x 5G 11x 42H 2K 4x 26H 6x 10H 1K 3x 2H
  32G 28H 2x 2H 63K 1x 29K 2x 11K 6x 10K 6x 14K 2x 15P 2W 14X 49x 76I 1X 1x 2a 45I 2X 1a 43J
  3M 12J 6M 52L 8x 4L 56J 3x 15J 3x 51J 9R 2a 5x 43T 2x 3T 8M 8x 35K 4M 1S 2P 1U 5x 108G 88H
  7I 28J 15P 4S 1X 1R 1L 1K 2I 155A 1B 4J 90A 6J 22A 2x 6A 2x 38A 2x 6A 2x 8A 1x 1A 1x 1A 1x
  1A 1x 31A 2x 53A 1x 15A 1x 14A 2x 6A 1x 19A 2x 3A 1x 9A 1x 47A 1D 23A 1F 6D 5F 2G 2H 1F 7H
  5F 1J 1x 4O 7A 1F 2x 27A 1x 5H 8L 3x 11A 1B 1C 3D 2F 4H 3K 1L 1N 3P 1Q 1S 1X 15x 18A 2D 7F
  1H 4I 1J 15x 57A 2D 1G 1H 15F 1H 2I 1J 3K 48A 1D 1I 4J 1K 2Q 4x 91A 9D 12F 242A 14F 1A 1D
  121A 1D 1F 30D 52F 2G 11H 12I 1K 11L 7P 4R 1S 37A 2D 3a 22x 11A 21x 139A 20F 1G 150A 10F 80A
  8D 8F 20A 2G 2F 1H 1D 86A 2D 12F 2H 10F 8G 11H 1J 2K 2G 16H 1I 10J 3K 4J 10K 1L 19K 1L 1K 4L
  24K 1P 4A 1L 4A 2L 28A 1L 35A 1L 1A 1L 4A 3L 1A 1K 7A 2L 7A 14F 31A 3L 24A 1L 14A 1L 7H 4I
  1M 1J 1M 2L 28F 4J 16F 256D 512F 14G 6H 7I 5J 4I 41J 3P 5J 5K 26P 2x 32P 1x 1W 34P 3T 12P 1U
  8P 1S 25T 4Q 15T 1U 47H 1X 47H 1X 13I 3J 1K 3J 4I 6J 2K 107H 7K 2M 5x 45H 1x 1M 5x 1M 2x 54H
  2M 7x 1H 1L 14x 1L 23H 9x 7H 1x 7H 1x 7H 1x 7H 1x 7H 1x 7H 1x 7H 1x 7H 1x 32J 24H 4J 2H 19J
  1K 10M 7P 2R 5S 5T 1U 3W 11X 34x 26D 1x 89D 12x 214D 26x 12D 4Z 56A 3D 3F 1D 1A 1x 84A 2F 2x
  6A 2F 94A 1F 5x 40A 1J 1S 1T 1x 94A 1x 16A 24D 3L 5W 16H 20J 2a 9x 1Z 16F 29A 2G 1x 36A 12K
  1G 15F 28A 2G 1H 50A 15F 12A 4G 47A 1V 119A 4G 99A 2G 31A 1G 6582D 10W 64G 20902A 22H 8J 8K
  1M 9Q 21S 5T 13W 3X 1165D 3x 18D 2F 16D 1F 12D 1F 3D 1F 1D 9x 48K 300J 20x 32J 2L 18J 8M 28J
  6P 1Q 1M 88K 8x 23H 4I 5J 2I 107J 2L 1Q 2L 2M 12P 10L 1M 3P 1R 1T 2P 6Q 2T 6U 2X 5U 4W 3a 2x
  2X 1x 1X 1x 5X 3a 21x 3X 2W 1P 2M 1L 5J 44H 1W 3x 10K 6x 56I 8x 69J 1R 8x 12J 6x 28K 2Q 2T
  84J 11x 1J 29K 3x 78K 1x 11K 4x 2K 31P 1x 55J 9x 14J 2x 10J 2x 4J 28K 4P 67K 24x 5K 23M 10x
  6L 2x 6L 2x 6L 9x 7L 1x 7L 1x 48P 4Q 2P 2U 4W 4x 80Q 46K 2x 10K 6x 11172B 12x 23K 4x 49K
  2052x 6702A 2M 59F 3K 2x 106H 38x 7A 12x 5A 5x 1D 25A 1x 5A 1x 1A 1x 2A 1x 2A 1x 108A 16L 1X
  16x 365A 16X 64A 2x 54A 7x 1X 32E 12A 1F 1G 2X 16F 10H 6x 4A 3J 7P 2Q 21A 2F 2G 10A 1x 19A
  1x 4A 4x 3A 1F 1A 1x 135A 2x 1A 1x 94A 2F 94A 3x 6A 2x 6A 2x 6A 2x 3A 3x 7A 1x 7A 10x 3D 1C
  3A 12G 1x 26G 1x 19G 1x 2G 1x 15G 2x 14G 34x 123G 5x 3G 4x 45G 3x 9G 75H 2P 2R 1x 12J 1W 3x
  1P 47x 46J 130x 29J 3x 49J 15x 28P 4x 31E 1P 4E 9x 3S 27E 5x 43P 5x 30G 1x 1G 36H 4x 14H 42x
  38E 2G 38E 80G 2x 10G 6x 36R 4x 36R 4x 40P 8x 52P 11x 1P 11X 1x 15X 1x 7X 1x 2X 1x 11X 1x
  15X 1x 7X 1x 2X 3x 52a 12x 311P 9x 22P 10x 8P 24x 6X 1x 42X 1x 9X 69x 6G 2x 1G 1x 44G 1x 2G
  3x 1G 2x 1G 22K 1x 9K 63P 8x 9P 48x 19Q 1x 2Q 5x 5Q 26I 2K 3x 1I 26J 5x 1J 64x 56M 4x 2Q 2M
  16Q 2x 46Q 4H 1x 2H 5x 8H 1x 3H 1x 27H 2T 2x 3H 4x 9H 1T 7x 9H 7x 32K 32P 32x 39P 4x 12P 9x
  54K 3x 29K 2x 27K 5x 8K 18P 7x 4P 12x 7P 80x 73K 55x 51Q 13x 51Q 7x 6Q 40T 8x 10T 6x 38a 3x
  29a 8x 2a 208x 31K 1x 42W 1x 3W 2x 2W 16x 3a 55x 1a 3Y 40T 8x 42T 22x 26X 38x 28W 20x 23U 9x
  78L 4x 30L 6X 9x 1P 66K 1X 10x 1T 2x 25M 7x 10M 6x 53M 1x 14M 3T 1W 8x 39P 9x 73M 4Q 1P 2W
  10M 1P 5Q 1x 20P 11x 18P 1x 43P 1R 3Y 62x 7Q 1x 1Q 1x 4Q 1x 15Q 1x 11Q 6x 59P 5x 10P 6x 1Q
  3P 1x 8P 2x 2P 2x 22P 1x 7P 1x 2P 1x 5P 1x 1T 9P 2x 2P 2x 3P 2x 1Q 6x 1P 5x 7P 2x 7P 3x 5P
  11x 10a 1x 1a 2x 1a 1x 38a 1x 10a 1x 1a 2x 1a 1x 4a 1x 10a 1x 2a 8x 2a 29x 90R 1W 1R 1x 1R
  1T 1U 2W 30x 72P 8x 10P 166x 54P 2x 18P 20Q 34x 69P 11x 10P 6x 13R 19x 56M 1U 1X 6x 10M 6x
  20a 28x 26Q 1T 2x 15Q 4x 16Q 7X 185x 60T 100x 83P 12x 1P 7W 2x 1W 2x 8W 1x 2W 1x 30W 1x 2W
  2x 12W 9x 10W 70x 8U 2x 46U 2x 11U 27x 72S 8x 52S 2U 23S 1T 5S 13x 16X 57P 7x 10Y 182x 34a
  14x 10a 6x 9R 1x 45R 1x 14R 10x 29R 3x 32R 2x 22R 1x 14R 73x 7S 1x 2S 1x 44S 3x 1S 1x 2S 1x
  9S 8x 10S 6x 6T 1x 2T 1x 37T 1x 2T 1x 6T 7x 10T 310x 25T 7x 17Y 1x 41Y 3x 28Y 1a 85x 1W 15x
  50U 13x 1U 879I 42P 1Q 102x 99I 12P 1x 4I 1P 11x 196Q 2636x 99X 13x 1071K 1Y 9U 29Y 10x
  3995a 5x 583Q 6841x 58a 1734x 569L 7x 31P 1x 10P 4x 2P 79X 1x 10X 6x 30P 2x 6P 10x 70P 10x
  10P 1x 7P 1x 21P 5x 19P 432x 58a 198x 91T 101x 69M 6U 4x 1U 47M 9U 7x 17M 64x 1R 1S 2U 1W
  11x 2W 14x 6125R 5T 6U 8x 755R 483W 41x 1a 9W 8935x 4X 1x 7X 1x 2X 1x 2L 285S 4X 15x 1Y 29x
  3U 2x 1Y 14x 4U 8x 396S 2308x 107P 5x 13P 3x 9P 7x 10P 2x 8P 3932x 250a 6x 436a 76x 46X 2x
  23X 9x 116X 60x 246E 10x 39E 2x 1J 180E 11Q 2X 21x 70H 122x 20Y 12x 20T 12x 87G 9x 18I 7T
  135x 85E 1x 71E 1x 2E 2x 1E 2x 2E 2x 4E 1x 12E 1x 1E 1x 4E 1G 2E 1x 65E 1x 4E 2x 8E 1x 7E 1x
  28E 1x 4E 1x 5E 1x 1E 3x 7E 1x 338E 2H 2x 290E 2I 2x 50E 652Q 15x 5Q 1x 15Q 1104x 31X 6x 6Y
  213x 7R 1x 17R 2x 7R 1x 2R 1x 5R 5x 62Y 33x 1Y 112x 45U 3x 14U 2x 10U 4x 2U 320x 31X 17x 58U
  5x 1U 464x 42Y 214x 43a 4x 1a 480x 7X 1x 4X 1x 2X 1x 15X 1x 197P 2x 16P 41x 75R 1U 4x 10R 4x
  2R 785x 68T 76x 61U 194x 4M 1x 27M 1x 2M 1x 1M 2x 1M 1x 10M 1x 4M 1x 1M 1x 1M 6x 1M 4x 1M 1x
  1M 1x 1M 1x 3M 1x 2M 1x 1M 2x 1M 1x 1M 1x 1M 1x 1M 1x 1M 1x 2M 1x 1M 2x 4M 1x 7M 1x 4M 1x 4M
  1x 1M 1x 10M 1x 17M 5x 3M 1x 5M 1x 17M 52x 2M 270x 44J 4x 100J 12x 15L 2x 14L 1P 1x 15L 1x
  15L 22P 10x 11K 2P 3W 31K 1T 1L 1K 11L 1K 1L 1K 2L 1K 3L 1K 3L 5K 8L 1K 7L 1K 10L 2M 1U 3W
  9L 1K 1L 2K 2L 1K 10L 4K 2L 1K 10L 18R 1W 56x 26L 1K 2L 13x 34K 9L 1R 4x 9K 7x 2L 14x 6S
  154x 33L 12P 3Q 6L 1P 70L 1P 2Q 20L 12P 37L 1P 5L 4P 5Q 12P 17L 7P 8Q 63L 1P 1L 1P 182L 1P
  4L 2P 1Q 62L 2P 4M 7P 5Q 24L 18P 1R 41P 1R 86P 5L 1M 16L 1M 3L 1M 1L 1M 1L 1M 1L 1M 3L 1M 6L
  2M 4L 1M 1L 2M 4L 1M 12L 2P 2Q 11L 48P 70L 10P 1Q 2R 2S 1U 2W 4x 1Y 3X 13P 3x 4P 3R 2S 1T 1U
  2W 3x 116L 3Y 4x 5Y 85P 4T 1Y 6x 12U 4x 1X 15x 12P 4x 56P 8x 10P 6x 40P 8x 30P 2x 2W 10a 4x
  2a 62x 12S 1W 3U 9Q 6R 1S 8R 8S 1R 2S 12R 1U 12R 1S 3T 15R 13S 5T 1U 1W 4T 2W 1X 1T 1U 4T 5Q
  13R 6S 11T 2W 6U 3W 2U 10T 6U 1Q 2T 8U 1W 1X 3U 23S 25T 84U 12x 14T 2x 4U 1W 3Y 3U 2X 3x 3U
  4W 2Y 1a 5x 1a 6U 19W 4X 3Y 7W 4X 3Y 1a 1Y 3W 3X 1a 7x 2Y 7W 3X 2Y 1a 2x 1a 8X 1Y 1a 6x 7X
  2Y 7x 147W 1x 55W 37a 10W 1028x 2B 42711E 7W 2X 32x 4149K 4X 1Y 6x 222L 2x 5762Q 14x 7473S
  15x 622Z 2466x 542E 1504x 2B 4939W 5x 4192Y 56398x 2B 65534x 2B 65534x 2B 65534x 2B 65534x
  2B 65534x 2B 65534x 2B 65534x 2B 65534x 2B 65534x 2B 65534x 2B 1x 1E 30x 96E 128x 240G
  65038x 131074B"

end TypedJson.Unicode
