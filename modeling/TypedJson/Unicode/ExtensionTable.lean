namespace TypedJson.Unicode

/-- The scripts of code points that are used with several scripts, or with another script than their
own. Each run has a length and short names in a row, or `x` where the own script is the only one. -/
def extensionRuns : String :=
  "183x 1AvstCariCoptDuplElbaGeorGlagGongGothGrekHaniLatnLydiMahjPermShaw 516x
  1BengCyrlDevaLatnLisuThaiToto 10x 1BopoLatn 1x 3BopoLatn 1x 1LatnLisu 9x 1LatnThai 1x
  1BopoLatn 38x 1CherCoptCyrlGrekLatnPermSunuTale 1CherCyrlGrekLatnOsgeSunuTaleTodr
  1CherCyrlLatnTfng 1GlagLatnSunuSyrcThai 1AghbCherCoptCyrlGothGrekLatnOsgeSyrcTfngTodr
  1CoptElbaGlagGothKanaLatn 1CyrlGrekLatnPermTfng 1CoptDuplHebrLatnPermSyrcTaleTfngTodr
  1ArmnCyrlDuplGothGrekHebrLatnPermSyrcTaleTfng 1LatnTfng 1DuplLatnSyrc 1CherCyrlLatnOsge
  1CherLatnTale 1LatnSunu 1EthiLatn 1x 1LatnSunu 1CyrlLatnTodr 1x 1GrekLatnPermTodr 15x
  1CherDuplKanaLatnSyrcTfng 1CherDuplLatnSyrc 1LatnSyrc 7x 1LatnSunuSyrc 1LatnSyrc 1x
  1CherLatnSyrc 1AghbCherGothLatnSunuSyrcThai 16x 1Grek 2x 1Grek 18x 1LatnOsge 5x
  1AghbLatnTodr 4x 13Latn 4x 2CoptGrek 269x 1CyrlPerm 1CyrlGlag 2CyrlLatn 1CyrlGlag 257x
  1ArmnGeorGlag 130x 1ArabGaraNkooRohgSyrcThaaYezi 14x 1ArabGaraNkooRohgSyrcThaaYezi
  1ArabSyrcThaa 2x 1AdlmArabGaraNkooRohgSyrcThaaYezi 32x 1AdlmArabMandManiOugrPhlpRohgSogdSyrc
  10x 11ArabSyrc 10x 10ArabThaaYezi 6x 1ArabSyrc 99x 1ArabRohg 636x
  1BengDevaGranGujrGuruKndaLatnMlymNandNewaOryaShrdTamlTeluTirh
  1BengDevaGranGujrGuruKndaLatnMlymNewaOryaTamlTeluTirh 17x
  1BengDevaDogrGongGonmGranGujrGuruKndaMahjMlymNandOnaoOryaSindSinhSyloTakrTamlTeluTirh
  1BengDevaDogrGongGonmGranGujrGukhGuruKndaLimbMahjMlymNandOnaoOryaSindSinhSyloTakrTamlTeluTirh
  10DevaDogrKthiMahj 118x 10BengCakmSylo 118x 10GuruMult 118x 10GujrKhoj 246x 14GranTaml 242x
  10KndaNandTutg 848x 10CakmMymrTale 177x 1GeorGlagLatn 1519x 3Runr 71x 2BuhdHanoTagbTglg 203x
  2MongPhag 1x 1MongPhag 1226x 1BengDevaGranKnda 1Deva 1BengDevaGranKnda 1DevaGranKnda 1Deva
  1BengDevaNewaTeluTirh 1BengDevaTelu 1DevaNewaShrd 1BengDevaNewaTelu 1DevaShrd
  1DevaKndaMlymOryaTamlTelu 1Deva 2DevaShrd 2Deva 1DevaShrd 1BengDeva 1DevaNewaTirh 6Deva
  1DevaNandNewa 1BengDevaShrd 1DevaNewa 1Deva 1BengDevaNewaShrd 4Deva
  1BengDevaGranKndaMlymNandOryaSinhTeluTirhTutg 1DevaGran 1DevaGranKndaTutg 2BengDeva 1Beng
  2DevaGran 1Nand 197x 2Grek 54x 1CyrlLatnSyrc 1x 1Syrc 564x 1LatnMongPhag 31x 1AdlmArab 10x
  1CariGeorGlagHungLyciOrkh 2x 1CariGrekHungMero 146x 1DevaGranLatn 3366x 1CoptLatn 24x
  1AvstOrkh 1AvstCariGeorHungKthiLydiSamr 10x 1Dupl 4x 1AdlmArabHung 1x 1CyrlGlag 428x
  16HaniTang 1x 1BopoHangHaniHiraKanaMongYiii 1BopoHangHaniHiraKanaMongPhagYiii
  1BopoHangHaniHiraKana 2x 1Hani 1x 2BopoHangHaniHiraKanaMongTibtYiii
  2BopoHangHaniHiraKanaLisuMongTibtYiii 6BopoHangHaniHiraKanaYiii 1x 1BopoHangHaniHiraKana
  8BopoHangHaniHiraKanaYiii 4BopoHangHaniHiraKana 10x 4BopoHani 2x 1BopoHangHaniHiraKana
  5HiraKana 1x 1BopoHangHaniHiraKana 4x 2HaniHiraKana 2Hani 89x 4HiraKana 3x 1HiraKana 90x
  1BopoHangHaniHiraKanaYiii 1HiraKana 147x 16Hani 32x 38Hani 9x 1HaniTang 48x 40Hani 56x
  49Hani 15x 12Hani 51x 1Hani 88x 25Hani 10x 5Hani 96x 31Hani 29296x 1CyrlGlag 144x 8HaniLatn
  296x 3DevaDogrGujrGuruKhojKndaKthiMahjMlymModiNandShrdSindTakrTirhTutg
  3DevaDogrGujrGuruKhojKndaKthiMahjModiNandShrdSindTakrTirhTutg
  2DevaDogrGujrGuruKhojKthiMahjModiSindTakrTirh
  1DevaDogrGujrGuruKhojKthiMahjModiShrdSindTakrTirh
  1DevaDogrGujrGuruKhojKthiMahjModiSindTakrTirh 183x 1BengDevaTutg 1x 1DevaTaml 58x
  1KaliLatnMymr 160x 1BugiJava 21358x 2ArabNkoo 178x 1ArabThaa 10x 1ArabThaa 71x
  2BopoHangHaniHiraKana 282x 5BopoHangHaniHiraKanaYiii 10x 1HiraKana 45x 2HiraKana 352x
  2CpmnCprtLinb 1CprtLinb 4x 45CprtLinaLinb 3x 9CprtLinb 416x 28ArabCopt 2038x 1ManiOugr 2062x
  1GranTaml 1x 1GranTaml 55x 2GranTaml 3219x 2GranTaml 1x 1GranTaml 40140x 4Dupl 5820x 18Hani
  7902x 2Hani 986542x"

end TypedJson.Unicode
