import Pygt1000.Specs.Param

/-!
# Value tables of the system sections
-/

namespace Pygt1000.Specs

def systemCommon : List (String × Param) := [
  ("Patch Number", ⟨[0, 0], [0, 499], 4, []⟩),
  ("TUNER MODE", ⟨[0, 4], [0, 1], 1, numbered 0 ["NORMAL", "STREAM"]⟩),
  ("Tuner Type", ⟨[0, 5], [0, 2], 1, numbered 0 ["MONO/POLY", "MONO", "POLY"]⟩),
  ("BANK CHANGE MODE", ⟨[0, 6], [0, 1], 1, numbered 0 ["WAIT", "IMMED"]⟩),
  ("BANK EXTENT MIN", ⟨[0, 7], [0, 99], 1, numbered 0 ["U01 - U50", "P01 - P50"]⟩),
  ("BANK EXTENT MAX", ⟨[0, 8], [0, 99], 1, numbered 0 [
     "U01 - U50", "P01 - P50", "\"BANK EXTENT MIN\" and \"BANK EXTENT MAX\" are pair",
     "parameters.", "The DT1 to each parameter is temporarily", "suspended",
     "and the DT1 to the pair parameter final", "address automatically checks the pending",
     "parameters", "and if there is no problem", "the value",
     "is set. If the value is incomplete it will not be", "set.",
     "Parameters before set are read out for the RQ1 to",
     "pending parameters. Pending values can not be", "read."]⟩),
  ("METRONOME BPM", ⟨[0, 9], [200, 2500], 4, numbered 200 ["20.0 - 250.0"]⟩),
  ("METRONOME BEAT", ⟨[0, 13], [0, 31], 1, numbered 0 [
     "1/1", "2/1", "3/1", "4/1", "5/1", "6/1", "7/1", "8/1", "1/2", "2/2", "3/2", "4/2", "5/2",
     "6/2", "7/2", "8/2", "1/4", "2/4", "3/4", "4/4", "5/4", "6/4", "7/4", "8/4", "1/8", "2/8",
     "3/8", "4/8", "5/8", "6/8", "7/8", "8/8"]⟩),
  ("N/A(fixed value)", ⟨[0, 14], [0], 1, []⟩),
  ("AMP CTL1", ⟨[0, 15], [0, 2], 1, numbered 0 ampControls⟩),
  ("AMP CTL2", ⟨[0, 16], [0, 2], 1, numbered 0 ampControls⟩),
  ("EXP1 HOLD", ⟨[0, 17], [0, 1], 1, numbered 0 onOff⟩),
  ("EXP2 HOLD", ⟨[0, 18], [0, 1], 1, numbered 0 onOff⟩),
  ("EXP3 HOLD", ⟨[0, 19], [0, 1], 1, numbered 0 onOff⟩),
  ("N/A(fixed value)1", ⟨[0, 20], [0], 1, []⟩),
  ("AUTO OFF", ⟨[0, 21], [0, 1], 1, numbered 0 onOff⟩),
  ("LED LUMINANCE", ⟨[0, 22], [0, 1], 1, numbered 0 ["LOW", "HIGH"]⟩),
  ("N/A(fixed value)2", ⟨[0, 23], [1], 1, []⟩),
  ("KNOB LOCK", ⟨[0, 24], [0, 1], 1, numbered 0 onOff⟩),
  ("KNOB1 SETTING", ⟨[0, 25], [0, 1024], 4, numbered 0 ["*1"]⟩),
  ("KNOB2 SETTING", ⟨[0, 29], [0, 1024], 4, numbered 0 ["*1"]⟩),
  ("KNOB3 SETTING", ⟨[0, 33], [0, 1024], 4, numbered 0 ["*1"]⟩),
  ("KNOB4 SETTING", ⟨[0, 37], [0, 1024], 4, numbered 0 ["*1"]⟩),
  ("KNOB5 SETTING", ⟨[0, 41], [0, 1024], 4, numbered 0 ["*1"]⟩),
  ("KNOB6 SETTING", ⟨[0, 45], [0, 1024], 4, numbered 0 ["*1"]⟩)]

def systemEfct : List (String × Param) := [
  ("PHRASE LOOP:MODE", ⟨[0, 0], [0, 1], 1, numbered 0 ["MONO", "STEREO"]⟩),
  ("PHRASE LOOP:REC ACTION", ⟨[0, 1], [0, 1], 1, numbered 0 ["REC>PLAY>DUB", "REC>DUB>PLAY"]⟩),
  ("METRONOME LEVEL", ⟨[0, 2], [0, 100], 1, []⟩),
  ("MAIN:GROUND LIFT", ⟨[0, 3], [0, 5], 1, numbered 0 ["1", "2", "3", "4", "5", "6"]⟩),
  ("TOTAL:METRONOME OUT", ⟨[0, 4], [0, 2], 1, numbered 0 metronomeOuts⟩)]

def systemInOut : List (String × Param) := [
  ("INPUT LEVEL", ⟨[0, 0], [12, 52], 1, numbered 12 gainsDb⟩),
  ("MAIN:AIRD OUTPUT SELECT", ⟨[0, 1], [0, 23], 1, numbered 0 airdOutputs⟩),
  ("MAIN R:AIRD OUTPUT SELECT", ⟨[0, 2], [0, 23], 1, numbered 0 airdOutputs⟩),
  ("MAIN L:LOW GAIN", ⟨[0, 3], [12, 52], 1, numbered 12 gainsDb⟩),
  ("MAIN L:MID GAIN", ⟨[0, 4], [12, 52], 1, numbered 12 gainsDb⟩),
  ("MAIN L:MID FREQ", ⟨[0, 5], [0, 29], 1, numbered 0 midFreqs⟩),
  ("MAIN L:MID Q", ⟨[0, 6], [0, 5], 1, numbered 0 midQs⟩),
  ("MAIN L:HIGH GAIN", ⟨[0, 7], [12, 52], 1, numbered 12 gainsDb⟩),
  ("MAIN L:LOW CUT", ⟨[0, 8], [0, 31], 1, numbered 0 lowCuts⟩),
  ("MAIN L:HIGH CUT", ⟨[0, 9], [0, 31], 1, numbered 0 highCuts⟩),
  ("MAIN R:LOW GAIN", ⟨[0, 10], [12, 52], 1, numbered 12 gainsDb⟩),
  ("MAIN R:MID GAIN", ⟨[0, 11], [12, 52], 1, numbered 12 gainsDb⟩),
  ("MAIN R:MID FREQ", ⟨[0, 12], [0, 29], 1, numbered 0 midFreqs⟩),
  ("MAIN R:MID Q", ⟨[0, 13], [0, 5], 1, numbered 0 midQs⟩),
  ("MAIN R:HIGH GAIN", ⟨[0, 14], [12, 52], 1, numbered 12 gainsDb⟩),
  ("MAIN R:LOW CUT", ⟨[0, 15], [0, 31], 1, numbered 0 lowCuts⟩),
  ("MAIN R:HIGH CUT", ⟨[0, 16], [0, 31], 1, numbered 0 highCuts⟩),
  ("SUB:AIRD OUTPUT SELECT", ⟨[0, 17], [0, 23], 1, numbered 0 airdOutputs⟩),
  ("SUB R:AIRD OUTPUT SELECT", ⟨[0, 18], [0, 23], 1, numbered 0 airdOutputs⟩),
  ("SUB L:LOW GAIN", ⟨[0, 19], [12, 52], 1, numbered 12 gainsDb⟩),
  ("SUB L:MID GAIN", ⟨[0, 20], [12, 52], 1, numbered 12 gainsDb⟩),
  ("SUB L:MID FREQ", ⟨[0, 21], [0, 29], 1, numbered 0 midFreqs⟩),
  ("SUB L:MID Q", ⟨[0, 22], [0, 5], 1, numbered 0 midQs⟩),
  ("SUB L:HIGH GAIN", ⟨[0, 23], [12, 52], 1, numbered 12 gainsDb⟩),
  ("SUB L:LOW CUT", ⟨[0, 24], [0, 31], 1, numbered 0 lowCuts⟩),
  ("SUB L:HIGH CUT", ⟨[0, 25], [0, 31], 1, numbered 0 highCuts⟩),
  ("SUB R:LOW GAIN", ⟨[0, 26], [12, 52], 1, numbered 12 gainsDb⟩),
  ("SUB R:MID GAIN", ⟨[0, 27], [12, 52], 1, numbered 12 gainsDb⟩),
  ("SUB R:MID FREQ", ⟨[0, 28], [0, 29], 1, numbered 0 midFreqs⟩),
  ("SUB R:MID Q", ⟨[0, 29], [0, 5], 1, numbered 0 midQs⟩),
  ("SUB R:HIGH GAIN", ⟨[0, 30], [12, 52], 1, numbered 12 gainsDb⟩),
  ("SUB R:LOW CUT", ⟨[0, 31], [0, 31], 1, numbered 32 lowCuts⟩),
  ("SUB R:HIGH CUT", ⟨[0, 32], [0, 31], 1, numbered 0 highCuts⟩),
  ("PHONES SETTING", ⟨[0, 33], [0, 2], 1, numbered 0 metronomeOuts⟩),
  ("TOTAL:NS THRESHOLD", ⟨[0, 34], [12, 52], 1, numbered 12 gainsDb⟩),
  ("TOTAL:REVERB LEVEL", ⟨[0, 35], [0, 200], 2, numbered 0 ["0 - 200 [%]"]⟩),
  ("MAIN:LEVEL SELECT", ⟨[0, 37], [0, 1], 1, numbered 0 ["-10dBu", "+4dBu"]⟩),
  ("USB DRY:OUT", ⟨[0, 38], [0, 200], 2, numbered 0 ["0 - 200 [%]"]⟩),
  ("USB DRY:TO EFX", ⟨[0, 40], [0, 200], 2, numbered 0 ["0 - 200 [%]"]⟩),
  ("N/A(fixed value)", ⟨[0, 42], [1], 1, []⟩),
  ("USB MAIN:EFX OUT", ⟨[0, 43], [0, 200], 2, numbered 0 ["0 - 200 [%]"]⟩),
  ("USB MAIN:MIX LEVEL", ⟨[0, 45], [0, 200], 2, numbered 0 ["0 - 200 [%]"]⟩),
  ("N/A(fixed value)1", ⟨[0, 47], [1], 1, []⟩),
  ("USB SUB:EFX OUT", ⟨[0, 48], [0, 200], 2, numbered 0 ["0 - 200 [%]"]⟩),
  ("USB SUB:MIX LEVEL", ⟨[0, 50], [0, 200], 2, numbered 0 ["0 - 200 [%]"]⟩),
  ("N/A(fixed value)2", ⟨[0, 52], [1], 1, []⟩),
  ("N/A(fixed value)3", ⟨[0, 53], [200], 2, []⟩),
  ("N/A(fixed value)4", ⟨[0, 55], [200], 2, []⟩),
  ("N/A(fixed value)5", ⟨[0, 57], [1], 1, []⟩),
  ("SUB:LEVEL SELECT", ⟨[0, 58], [0, 1], 1, numbered 0 ["-10dBu", "+4dBu"]⟩),
  ("SUB:OUTPUT LEVEL", ⟨[0, 59], [0, 100], 1, []⟩),
  ("SUB:GROUND LIFT", ⟨[0, 60], [0, 1], 1, numbered 0 onOff⟩),
  ("MAIN:STEREO LINK", ⟨[0, 61], [0, 1], 1, numbered 0 onOff⟩),
  ("SUB:STEREO LINK", ⟨[0, 62], [0, 1], 1, numbered 0 onOff⟩),
  ("MAIN L:LEVEL", ⟨[0, 63], [12, 52], 1, numbered 12 ["[dB]"]⟩),
  ("MAIN R:LEVEL", ⟨[0, 64], [12, 52], 1, numbered 12 ["[dB]"]⟩),
  ("SUB L:LEVEL", ⟨[0, 65], [12, 52], 1, numbered 12 ["[dB]"]⟩),
  ("SUB R:LEVEL", ⟨[0, 66], [12, 52], 1, numbered 12 ["[dB]"]⟩)]

end Pygt1000.Specs
