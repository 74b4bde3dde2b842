import RecordSieve.Unicode.Script

/-!
# Script Extensions

The scripts in which a character is used, after version 16 of the character database. Most
characters are used in their own script alone; the table lists the others.
-/

namespace RecordSieve.Unicode

/-- The code points that are used in other scripts than their own, as labelled runs. A label is
the codes of all these scripts, of four letters each; `none` stands for all other code points. -/
def extensionTable : String := String.join [
    "183none1AvstCariCoptDuplElbaGeorGlagGongGothGrekHaniLatnLydiMahjPermShaw516none",
    "1BengCyrlDevaLatnLisuThaiToto10none1BopoLatn1none3BopoLatn1none1LatnLisu9none1LatnThai1none",
    "1BopoLatn38none1CherCoptCyrlGrekLatnPermSunuTale1CherCyrlGrekLatnOsgeSunuTaleTodr",
    "1CherCyrlLatnTfng1GlagLatnSunuSyrcThai1AghbCherCoptCyrlGothGrekLatnOsgeSyrcTfngTodr",
    "1CoptElbaGlagGothKanaLatn1CyrlGrekLatnPerm1CoptDuplHebrLatnPermSyrcTaleTfngTodr",
    "1ArmnCyrlDuplGothGrekHebrLatnPermSyrcTale1LatnTfng1DuplLatnSyrc1CherCyrlLatnOsge",
    "1CherLatnTale1LatnSunu1EthiLatn1none1LatnSunu1CyrlLatnTodr1none1GrekLatnPermTodr12none",
    "1LatnSyrc2none1CherDuplKanaLatnSyrc1CherDuplLatnSyrc1LatnSyrc7none1LatnSunuSyrc1LatnSyrc",
    "1none1CherLatnSyrc1AghbCherGothLatnSunuThai16none1Grek2none1Grek18none1LatnOsge5none",
    "1AghbLatnTodr4none13Latn4none2CoptGrek269none1CyrlPerm1CyrlGlag2CyrlLatn1CyrlGlag257none",
    "1ArmnGeorGlag130none1ArabGaraNkooRohgSyrcThaaYezi14none1ArabGaraNkooRohgSyrcThaaYezi",
    "1ArabSyrcThaa2none1AdlmArabGaraNkooRohgSyrcThaaYezi32none",
    "1AdlmArabMandManiOugrPhlpRohgSogdSyrc10none11ArabSyrc10none10ArabThaaYezi6none1ArabSyrc",
    "99none1ArabRohg636none1BengDevaGranGujrGuruKndaLatnMlymOryaShrdTamlTeluTirh",
    "1BengDevaGranGujrGuruKndaLatnMlymOryaTamlTeluTirh17none",
    "1BengDevaDogrGongGonmGranGujrGuruKndaMahjMlymNandOnaoOryaSindSinhSyloTakrTamlTeluTirh",
    "1BengDevaDogrGongGonmGranGujrGukhGuruKndaLimbMahjMlymNandOnaoOryaSindSinhSyloTakrTamlTeluTirh",
    "10DevaDogrKthiMahj118none10BengCakmSylo118none10GuruMult118none10GujrKhoj246none14GranTaml",
    "242none10KndaNandTutg848none10CakmMymrTale177none1GeorGlagLatn1519none3Runr71none",
    "2BuhdHanoTagbTglg203none2MongPhag1none1MongPhag1226none1BengDevaGranKnda1Deva",
    "1BengDevaGranKnda1DevaGranKnda1Deva2BengDeva1DevaShrd1BengDeva1DevaShrd",
    "1DevaKndaMlymOryaTamlTelu1Deva2DevaShrd2Deva1DevaShrd1BengDeva7Deva1DevaNand1BengDeva2Deva",
    "1BengDeva4Deva1BengDevaGranKndaMlymNandOryaSinhTeluTirhTutg1DevaGran1DevaGranKndaTutg",
    "2BengDeva1Beng2DevaGran1Nand197none2Grek54none1CyrlLatnSyrc1none1Syrc564none1LatnMongPhag",
    "31none1AdlmArab10none1CariGeorGlagHungLyciOrkh2none1CariGrekHungMero146none1DevaGranLatn",
    "3366none1CoptLatn24none1AvstOrkh1AvstCariGeorHungKthiLydiSamr10none1Dupl4none1AdlmArabHung",
    "1none1CyrlGlag428none16HaniTang1none1BopoHangHaniHiraKanaMongYiii",
    "1BopoHangHaniHiraKanaMongPhagYiii1BopoHangHaniHiraKana2none1Hani1none",
    "2BopoHangHaniHiraKanaMongTibtYiii2BopoHangHaniHiraKanaLisuMongTibtYiii",
    "6BopoHangHaniHiraKanaYiii1none1BopoHangHaniHiraKana8BopoHangHaniHiraKanaYiii",
    "4BopoHangHaniHiraKana10none4BopoHani2none1BopoHangHaniHiraKana5HiraKana1none",
    "1BopoHangHaniHiraKana4none2HaniHiraKana2Hani89none4HiraKana3none1HiraKana90none",
    "1BopoHangHaniHiraKanaYiii1HiraKana147none16Hani32none38Hani9none1HaniTang48none40Hani56none",
    "49Hani15none12Hani51none1Hani88none25Hani10none5Hani96none31Hani29296none1CyrlGlag144none",
    "8HaniLatn296none3DevaDogrGujrGuruKhojKndaKthiMahjMlymModiNandShrdSindTakrTirhTutg",
    "3DevaDogrGujrGuruKhojKndaKthiMahjModiNandShrdSindTakrTirhTutg",
    "2DevaDogrGujrGuruKhojKthiMahjModiSindTakrTirh",
    "1DevaDogrGujrGuruKhojKthiMahjModiShrdSindTakrTirh",
    "1DevaDogrGujrGuruKhojKthiMahjModiSindTakrTirh183none1BengDevaTutg1none1DevaTaml58none",
    "1KaliLatnMymr160none1BugiJava21358none2ArabNkoo178none1ArabThaa10none1ArabThaa71none",
    "2BopoHangHaniHiraKana282none5BopoHangHaniHiraKanaYiii10none1HiraKana45none2HiraKana352none",
    "2CpmnCprtLinb1CprtLinb4none45CprtLinaLinb3none9CprtLinb416none28ArabCopt2038none1ManiOugr",
    "2062none1GranTaml1none1GranTaml55none2GranTaml3219none2GranTaml1none1GranTaml40140none4Dupl",
    "5820none18Hani7902none2Hani986542none"]

/-- The script codes in a label of the table. -/
def scriptCodes (label : String) : List String :=
  cut label.length label.toList
where
  /-- The first letters of a text, four at a time. -/
  cut : Nat → List Char → List String
    | 0, _ | _, [] => []
    | n + 1, letters => String.ofList (letters.take 4) :: cut n (letters.drop 4)

/-- The characters that are used in a script, by its name. -/
def scriptExtension? (name : String) : Option CodePointSet :=
  (byName? scriptNames name).map fun code =>
    let runs := partition extensionTable
    let own := (labelled scriptRuns (· = code)).diff (labelled runs (· ≠ "none"))
    own.union (labelled runs fun label => (scriptCodes label).contains code)

end RecordSieve.Unicode
