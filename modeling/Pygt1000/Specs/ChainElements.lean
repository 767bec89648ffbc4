import Mathlib.Data.List.Basic

/-!
# The elements of an effect chain (`ChainElement.json`)

One dictionary for both directions: every element is listed under its number, written out, and
under its name.
-/

namespace Pygt1000.Specs

def chainElement : List (String × String) := [
  ("0", "COMPRESSOR"), ("COMPRESSOR", "0"),
  ("1", "DISTORTION1"), ("DISTORTION1", "1"),
  ("2", "DISTORTION2"), ("DISTORTION2", "2"),
  ("3", "AIRDPREAMP1"), ("AIRDPREAMP1", "3"),
  ("4", "AIRDPREAMP2"), ("AIRDPREAMP2", "4"),
  ("5", "NOISESUPPRESSOR1"), ("NOISESUPPRESSOR1", "5"),
  ("6", "NOISESUPPRESSOR2"), ("NOISESUPPRESSOR2", "6"),
  ("7", "FX1"), ("FX1", "7"),
  ("8", "FX2"), ("FX2", "8"),
  ("9", "FX3"), ("FX3", "9"),
  ("10", "EQUALIZER1"), ("EQUALIZER1", "10"),
  ("11", "EQUALIZER2"), ("EQUALIZER2", "11"),
  ("12", "EQUALIZER3"), ("EQUALIZER3", "12"),
  ("13", "EQUALIZER4"), ("EQUALIZER4", "13"),
  ("14", "CHORUS"), ("CHORUS", "14"),
  ("15", "DELAY1"), ("DELAY1", "15"),
  ("16", "DELAY2"), ("DELAY2", "16"),
  ("17", "DELAY3"), ("DELAY3", "17"),
  ("18", "DELAY4"), ("DELAY4", "18"),
  ("19", "MASTERDELAY"), ("MASTERDELAY", "19"),
  ("20", "FX4"), ("FX4", "20"),
  ("21", "REVERB"), ("REVERB", "21"),
  ("22", "FOOTVOLUME"), ("FOOTVOLUME", "22"),
  ("23", "PEDALFX"), ("PEDALFX", "23"),
  ("24", "SEND/RETURN1"), ("SEND/RETURN1", "24"),
  ("25", "SEND/RETURN2"), ("SEND/RETURN2", "25"),
  ("26", "LOOPER"), ("LOOPER", "26"),
  ("27", "SUBSP.SIMULATORL"), ("SUBSP.SIMULATORL", "27"),
  ("28", "SUBSP.SIMULATORR"), ("SUBSP.SIMULATORR", "28"),
  ("29", "MAINSP.SIMULATORL"), ("MAINSP.SIMULATORL", "29"),
  ("30", "MAINSP.SIMULATORR"), ("MAINSP.SIMULATORR", "30"),
  ("31", "BYPASSSUBL"), ("BYPASSSUBL", "31"),
  ("32", "BYPASSSUBR"), ("BYPASSSUBR", "32"),
  ("33", "BYPASSMAINL"), ("BYPASSMAINL", "33"),
  ("34", "BYPASSMAINR"), ("BYPASSMAINR", "34"),
  ("35", "DIVIDER1"), ("DIVIDER1", "35"),
  ("36", "BRANCHSPLIT1"), ("BRANCHSPLIT1", "36"),
  ("37", "MIXER1"), ("MIXER1", "37"),
  ("38", "DIVIDER2"), ("DIVIDER2", "38"),
  ("39", "BRANCHSPLIT2"), ("BRANCHSPLIT2", "39"),
  ("40", "MIXER2"), ("MIXER2", "40"),
  ("41", "DIVIDER3"), ("DIVIDER3", "41"),
  ("42", "BRANCHSPLIT3"), ("BRANCHSPLIT3", "42"),
  ("43", "MIXER3"), ("MIXER3", "43"),
  ("44", "(RESERVED)"), ("(RESERVED)", "44"),
  ("45", "SUBOUTL"), ("SUBOUTL", "45"),
  ("46", "SUBOUTR"), ("SUBOUTR", "46"),
  ("47", "MAINOUTL"), ("MAINOUTL", "47"),
  ("48", "MAINOUTR"), ("MAINOUTR", "48")]

end Pygt1000.Specs
