import Pygt1000.Specs.Param

/-!
# Value tables of the patch as a whole
-/

namespace Pygt1000.Specs

def patchCommon : List (String × Param) := [
  ("Patch Name1", ⟨[0, 0], [32, 126], 1, []⟩),
  ("Patch Name2", ⟨[0, 1], [32, 126], 1, []⟩),
  ("Patch Name3", ⟨[0, 2], [32, 126], 1, []⟩),
  ("Patch Name4", ⟨[0, 3], [32, 126], 1, []⟩),
  ("Patch Name5", ⟨[0, 4], [32, 126], 1, []⟩),
  ("Patch Name6", ⟨[0, 5], [32, 126], 1, []⟩),
  ("Patch Name7", ⟨[0, 6], [32, 126], 1, []⟩),
  ("Patch Name8", ⟨[0, 7], [32, 126], 1, []⟩),
  ("Patch Name9", ⟨[0, 8], [32, 126], 1, []⟩),
  ("Patch Name10", ⟨[0, 9], [32, 126], 1, []⟩),
  ("Patch Name11", ⟨[0, 10], [32, 126], 1, []⟩),
  ("Patch Name12", ⟨[0, 11], [32, 126], 1, []⟩),
  ("Patch Name13", ⟨[0, 12], [32, 126], 1, []⟩),
  ("Patch Name14", ⟨[0, 13], [32, 126], 1, []⟩),
  ("Patch Name15", ⟨[0, 14], [32, 126], 1, []⟩),
  ("Patch Name16", ⟨[0, 15], [32, 126], 1, []⟩),
  ("N/A(fixed value)", ⟨[0, 16], [0], 1, []⟩),
  ("N/A(fixed value)1", ⟨[0, 17], [0], 1, []⟩),
  ("N/A(fixed value)2", ⟨[0, 18], [0], 1, []⟩),
  ("N/A(fixed value)3", ⟨[0, 19], [0], 1, []⟩),
  ("N/A(fixed value)4", ⟨[0, 20], [0], 1, []⟩),
  ("N/A(fixed value)5", ⟨[0, 21], [0], 1, []⟩),
  ("N/A(fixed value)6", ⟨[0, 22], [0], 1, []⟩),
  ("N/A(fixed value)7", ⟨[0, 23], [0], 1, []⟩),
  ("N/A(fixed value)8", ⟨[0, 24], [0], 1, []⟩),
  ("N/A(fixed value)9", ⟨[0, 25], [0], 1, []⟩),
  ("N/A(fixed value)10", ⟨[0, 26], [0], 1, []⟩),
  ("N/A(fixed value)11", ⟨[0, 27], [0], 1, []⟩),
  ("N/A(fixed value)12", ⟨[0, 28], [0], 1, []⟩),
  ("N/A(fixed value)13", ⟨[0, 29], [0], 1, []⟩),
  ("N/A(fixed value)14", ⟨[0, 30], [0], 1, []⟩),
  ("N/A(fixed value)15", ⟨[0, 31], [0], 1, []⟩),
  ("N/A(fixed value)16", ⟨[0, 32], [0], 1, []⟩),
  ("N/A(fixed value)17", ⟨[0, 33], [0], 1, []⟩),
  ("N/A(fixed value)18", ⟨[0, 34], [0], 1, []⟩),
  ("Num1 Function", ⟨[0, 35], [0, 57], 1, numbered 0 [
     "OFF", "1", "PATCH +1", "PATCH -1", "LEVEL +10", "LEVEL +20", "LEVEL -10", "LEVEL -20",
     "BPM TAP", "DLY1 TAP", "DLY2 TAP", "DLY3 TAP", "DLY4 TAP", "MST DLY TAP", "TUNER",
     "AMP CTL1", "AMP CTL2", "CMP", "DS1", "DS1 SOLO", "DS2", "DS2 SOLO", "AMP-1", "AMP-1 SOLO",
     "AMP-2", "AMP-2 SOLO", "NS 1", "NS 2", "EQ 1", "EQ 2", "EQ 3", "EQ 4", "DLY1", "DLY2",
     "DLY3", "DLY4", "MST DLY", "CHO", "FX1", "FX2", "FX3", "FX1 TRIGGER", "FX2 TRIGGER",
     "FX3 TRIGGER", "REV", "PFX", "DIV1 CH.SEL", "DIV2 CH.SEL", "DIV3 CH.SEL", "S/R 1", "S/R 2",
     "LOOPER", "LOOPER STOP", "LOOPER CLEAR", "METRONOME", "MIDI START", "MMC PLAY",
     "MDLY TRIGGER"]⟩),
  ("Num1 Mode", ⟨[0, 36], [0, 1], 1, numbered 0 switchModes⟩),
  ("Num2 Function", ⟨[0, 37], [0, 57], 1, numbered 0 [
     "OFF", "2", "PATCH +1", "PATCH -1", "LEVEL +10", "LEVEL +20", "LEVEL -10", "LEVEL -20",
     "BPM TAP", "DLY1 TAP", "DLY2 TAP", "DLY3 TAP", "DLY4 TAP", "MST DLY TAP", "TUNER",
     "AMP CTL1", "AMP CTL2", "CMP", "DS1", "DS1 SOLO", "DS2", "DS2 SOLO", "AMP-1", "AMP-1 SOLO",
     "AMP-2", "AMP-2 SOLO", "NS 1", "NS 2", "EQ 1", "EQ 2", "EQ 3", "EQ 4", "DLY1", "DLY2",
     "DLY3", "DLY4", "MST DLY", "CHO", "FX1", "FX2", "FX3", "FX1 TRIGGER", "FX2 TRIGGER",
     "FX3 TRIGGER", "REV", "PFX", "DIV1 CH.SEL", "DIV2 CH.SEL", "DIV3 CH.SEL", "S/R 1", "S/R 2",
     "LOOPER", "LOOPER STOP", "LOOPER CLEAR", "METRONOME", "MIDI START", "MMC PLAY",
     "MDLY TRIGGER"]⟩),
  ("Num2 Mode", ⟨[0, 38], [0, 1], 1, numbered 0 switchModes⟩),
  ("Num3 Function", ⟨[0, 39], [0, 57], 1, numbered 0 [
     "OFF", "3", "PATCH +1", "PATCH -1", "LEVEL +10", "LEVEL +20", "LEVEL -10", "LEVEL -20",
     "BPM TAP", "DLY1 TAP", "DLY2 TAP", "DLY3 TAP", "DLY4 TAP", "MST DLY TAP", "TUNER",
     "AMP CTL1", "AMP CTL2", "CMP", "DS1", "DS1 SOLO", "DS2", "DS2 SOLO", "AMP-1", "AMP-1 SOLO",
     "AMP-2", "AMP-2 SOLO", "NS 1", "NS 2", "EQ 1", "EQ 2", "EQ 3", "EQ 4", "DLY1", "DLY2",
     "DLY3", "DLY4", "MST DLY", "CHO", "FX1", "FX2", "FX3", "FX1 TRIGGER", "FX2 TRIGGER",
     "FX3 TRIGGER", "REV", "PFX", "DIV1 CH.SEL", "DIV2 CH.SEL", "DIV3 CH.SEL", "S/R 1", "S/R 2",
     "LOOPER", "LOOPER STOP", "LOOPER CLEAR", "METRONOME", "MIDI START", "MMC PLAY",
     "MDLY TRIGGER"]⟩),
  ("Num3 Mode", ⟨[0, 40], [0, 1], 1, numbered 0 switchModes⟩),
  ("Num4 Function", ⟨[0, 41], [0, 57], 1, numbered 0 [
     "OFF", "4", "PATCH +1", "PATCH -1", "LEVEL +10", "LEVEL +20", "LEVEL -10", "LEVEL -20",
     "BPM TAP", "DLY1 TAP", "DLY2 TAP", "DLY3 TAP", "DLY4 TAP", "MST DLY TAP", "TUNER",
     "AMP CTL1", "AMP CTL2", "CMP", "DS1", "DS1 SOLO", "DS2", "DS2 SOLO", "AMP-1", "AMP-1 SOLO",
     "AMP-2", "AMP-2 SOLO", "NS 1", "NS 2", "EQ 1", "EQ 2", "EQ 3", "EQ 4", "DLY1", "DLY2",
     "DLY3", "DLY4", "MST DLY", "CHO", "FX1", "FX2", "FX3", "FX1 TRIGGER", "FX2 TRIGGER",
     "FX3 TRIGGER", "REV", "PFX", "DIV1 CH.SEL", "DIV2 CH.SEL", "DIV3 CH.SEL", "S/R 1", "S/R 2",
     "LOOPER", "LOOPER STOP", "LOOPER CLEAR", "METRONOME", "MIDI START", "MMC PLAY",
     "MDLY TRIGGER"]⟩),
  ("Num4 Mode", ⟨[0, 42], [0, 1], 1, numbered 0 switchModes⟩),
  ("Num5 Function", ⟨[0, 43], [0, 57], 1, numbered 0 [
     "OFF", "5", "PATCH +1", "PATCH -1", "LEVEL +10", "LEVEL +20", "LEVEL -10", "LEVEL -20",
     "BPM TAP", "DLY1 TAP", "DLY2 TAP", "DLY3 TAP", "DLY4 TAP", "MST DLY TAP", "TUNER",
     "AMP CTL1", "AMP CTL2", "CMP", "DS1", "DS1 SOLO", "DS2", "DS2 SOLO", "AMP-1", "AMP-1 SOLO",
     "AMP-2", "AMP-2 SOLO", "NS 1", "NS 2", "EQ 1", "EQ 2", "EQ 3", "EQ 4", "DLY1", "DLY2",
     "DLY3", "DLY4", "MST DLY", "CHO", "FX1", "FX2", "FX3", "FX1 TRIGGER", "FX2 TRIGGER",
     "FX3 TRIGGER", "REV", "PFX", "DIV1 CH.SEL", "DIV2 CH.SEL", "DIV3 CH.SEL", "S/R 1", "S/R 2",
     "LOOPER", "LOOPER STOP", "LOOPER CLEAR", "METRONOME", "MIDI START", "MMC PLAY",
     "MDLY TRIGGER"]⟩),
  ("Num5 Mode", ⟨[0, 44], [0, 1], 1, numbered 0 switchModes⟩),
  ("BankDown Function", ⟨[0, 45], [0, 57], 1, numbered 0 [
     "OFF", "BANK DOWN", "PATCH +1", "PATCH -1", "LEVEL +10", "LEVEL +20", "LEVEL -10",
     "LEVEL -20", "BPM TAP", "DLY1 TAP", "DLY2 TAP", "DLY3 TAP", "DLY4 TAP", "MST DLY TAP",
     "TUNER", "AMP CTL1", "AMP CTL2", "CMP", "DS1", "DS1 SOLO", "DS2", "DS2 SOLO", "AMP-1",
     "AMP-1 SOLO", "AMP-2", "AMP-2 SOLO", "NS 1", "NS 2", "EQ 1", "EQ 2", "EQ 3", "EQ 4", "DLY1",
     "DLY2", "DLY3", "DLY4", "MST DLY", "CHO", "FX1", "FX2", "FX3", "FX1 TRIGGER", "FX2 TRIGGER",
     "FX3 TRIGGER", "REV", "PFX", "DIV1 CH.SEL", "DIV2 CH.SEL", "DIV3 CH.SEL", "S/R 1", "S/R 2",
     "LOOPER", "LOOPER STOP", "LOOPER CLEAR", "METRONOME", "MIDI START", "MMC PLAY",
     "MDLY TRIGGER"]⟩),
  ("BankDown Mode", ⟨[0, 46], [0, 1], 1, numbered 0 switchModes⟩),
  ("BankUp Function", ⟨[0, 47], [0, 57], 1, numbered 0 [
     "OFF", "BANK UP", "PATCH +1", "PATCH -1", "LEVEL +10", "LEVEL +20", "LEVEL -10", "LEVEL -20",
     "BPM TAP", "DLY1 TAP", "DLY2 TAP", "DLY3 TAP", "DLY4 TAP", "MST DLY TAP", "TUNER",
     "AMP CTL1", "AMP CTL2", "CMP", "DS1", "DS1 SOLO", "DS2", "DS2 SOLO", "AMP-1", "AMP-1 SOLO",
     "AMP-2", "AMP-2 SOLO", "NS 1", "NS 2", "EQ 1", "EQ 2", "EQ 3", "EQ 4", "DLY1", "DLY2",
     "DLY3", "DLY4", "MST DLY", "CHO", "FX1", "FX2", "FX3", "FX1 TRIGGER", "FX2 TRIGGER",
     "FX3 TRIGGER", "REV", "PFX", "DIV1 CH.SEL", "DIV2 CH.SEL", "DIV3 CH.SEL", "S/R 1", "S/R 2",
     "LOOPER", "LOOPER STOP", "LOOPER CLEAR", "METRONOME", "MIDI START", "MMC PLAY",
     "MDLY TRIGGER"]⟩),
  ("BankUp Mode", ⟨[0, 48], [0, 1], 1, numbered 0 switchModes⟩),
  ("Ctl1 Function", ⟨[0, 49], [0, 58], 1, numbered 0 controlFunctions⟩),
  ("Ctl1 Mode", ⟨[0, 50], [0, 1], 1, numbered 0 switchModes⟩),
  ("Ctl2 Function", ⟨[0, 51], [0, 58], 1, numbered 0 controlFunctions⟩),
  ("Ctl2 Mode", ⟨[0, 52], [0, 1], 1, numbered 0 switchModes⟩),
  ("Ctl3 Function", ⟨[0, 53], [0, 58], 1, numbered 0 controlFunctions⟩),
  ("Ctl3 Mode", ⟨[0, 54], [0, 1], 1, numbered 0 switchModes⟩),
  ("Ctl4 Function", ⟨[0, 55], [0, 58], 1, numbered 0 controlFunctions⟩),
  ("Ctl4 Mode", ⟨[0, 56], [0, 1], 1, numbered 0 switchModes⟩),
  ("Ctl5 Function", ⟨[0, 57], [0, 58], 1, numbered 0 controlFunctions⟩),
  ("Ctl5 Mode", ⟨[0, 58], [0, 1], 1, numbered 0 switchModes⟩),
  ("Ctl6 Function", ⟨[0, 59], [0, 58], 1, numbered 0 controlFunctions⟩),
  ("Ctl6 Mode", ⟨[0, 60], [0, 1], 1, numbered 0 switchModes⟩),
  ("Ctl7 Function", ⟨[0, 61], [0, 58], 1, numbered 0 controlFunctions⟩),
  ("Ctl7 Mode", ⟨[0, 62], [0, 1], 1, numbered 0 switchModes⟩),
  ("CNum Function", ⟨[0, 63], [0, 54], 1, numbered 0 controlFunctions⟩),
  ("CNum Mode", ⟨[0, 64], [0, 1], 1, numbered 0 switchModes⟩),
  ("Exp1Sw Function", ⟨[0, 65], [0, 58], 1, numbered 0 controlFunctions⟩),
  ("Exp1Sw Mode", ⟨[0, 66], [0, 1], 1, numbered 0 switchModes⟩),
  ("Exp1 Function", ⟨[0, 67], [0, 3], 1, numbered 0 expFunctions⟩),
  ("Exp2 Function", ⟨[0, 68], [0, 3], 1, numbered 0 expFunctions⟩),
  ("Exp3 Function", ⟨[0, 69], [0, 3], 1, numbered 0 expFunctions⟩),
  ("AMP CTL BPM1", ⟨[0, 70], [0, 229], 2, numbered 0 tapRates⟩),
  ("AMP CTL BPM2", ⟨[0, 72], [0, 229], 2, numbered 0 tapRates⟩),
  ("PATCH MIDI 1:CH", ⟨[0, 74], [0, 16], 1, numbered 0 ["OFF", "1 - 16"]⟩),
  ("PATCH MIDI 1:BANK MSB", ⟨[0, 75], [0, 128], 2, numbered 0 midiValues⟩),
  ("PATCH MIDI 1:BANK LSB", ⟨[0, 77], [0, 128], 2, numbered 0 midiValues⟩),
  ("PATCH MIDI 1:PC#", ⟨[0, 79], [0, 128], 2, numbered 0 ["OFF", "1 - 128"]⟩),
  ("PATCH MIDI 1:CC1#", ⟨[0, 81], [0, 128], 2, numbered 0 midiValues⟩),
  ("PATCH MIDI 1:CC1 VALUE", ⟨[0, 83], [0, 127], 1, []⟩),
  ("PATCH MIDI 1:CC2#", ⟨[0, 84], [0, 128], 2, numbered 0 midiValues⟩),
  ("PATCH MIDI 1:CC2 VALUE", ⟨[0, 86], [0, 127], 1, []⟩),
  ("PATCH MIDI 2:CH", ⟨[0, 87], [0, 16], 1, numbered 0 ["OFF", "1 - 16"]⟩),
  ("PATCH MIDI 2:BANK MSB", ⟨[0, 88], [0, 128], 2, numbered 0 midiValues⟩),
  ("PATCH MIDI 2:BANK LSB", ⟨[0, 90], [0, 128], 2, numbered 0 midiValues⟩),
  ("PATCH MIDI 2:PC#", ⟨[0, 92], [0, 128], 2, numbered 0 ["OFF", "1 - 128"]⟩),
  ("PATCH MIDI 2:CC1#", ⟨[0, 94], [0, 128], 2, numbered 0 midiValues⟩),
  ("PATCH MIDI 2:CC1 VALUE", ⟨[0, 96], [0, 127], 1, []⟩),
  ("PATCH MIDI 2:CC2#", ⟨[0, 97], [0, 128], 2, numbered 0 midiValues⟩),
  ("PATCH MIDI 2:CC2 VALUE", ⟨[0, 99], [0, 127], 1, []⟩),
  ("PATCH MIDI 3:CH", ⟨[0, 100], [0, 16], 1, numbered 0 ["OFF", "1 - 16"]⟩),
  ("PATCH MIDI 3:BANK MSB", ⟨[0, 101], [0, 128], 2, numbered 0 midiValues⟩),
  ("PATCH MIDI 3:BANK LSB", ⟨[0, 103], [0, 128], 2, numbered 0 midiValues⟩),
  ("PATCH MIDI 3:PC#", ⟨[0, 105], [0, 128], 2, numbered 0 ["OFF", "1 - 128"]⟩),
  ("PATCH MIDI 3:CC1#", ⟨[0, 107], [0, 128], 2, numbered 0 midiValues⟩),
  ("PATCH MIDI 3:CC1 VALUE", ⟨[0, 109], [0, 127], 1, []⟩),
  ("PATCH MIDI 3:CC2#", ⟨[0, 110], [0, 128], 2, numbered 0 midiValues⟩),
  ("PATCH MIDI 3:CC2 VALUE", ⟨[0, 112], [0, 127], 1, []⟩),
  ("PATCH MIDI 4:CH", ⟨[0, 113], [0, 16], 1, numbered 0 ["OFF", "1 - 128"]⟩),
  ("PATCH MIDI 4:BANK MSB", ⟨[0, 114], [0, 128], 2, numbered 0 midiValues⟩),
  ("PATCH MIDI 4:BANK LSB", ⟨[0, 116], [0, 128], 2, numbered 0 midiValues⟩),
  ("PATCH MIDI 4:PC#", ⟨[0, 118], [0, 128], 2, numbered 0 ["OFF", "1 - 128"]⟩),
  ("PATCH MIDI 4:CC1#", ⟨[0, 120], [0, 128], 2, numbered 0 midiValues⟩),
  ("PATCH MIDI 4:CC1 VALUE", ⟨[0, 122], [0, 127], 1, []⟩),
  ("PATCH MIDI 4:CC2#", ⟨[0, 123], [0, 128], 2, numbered 0 midiValues⟩),
  ("PATCH MIDI 4:CC2 VALUE", ⟨[0, 125], [0, 127], 1, []⟩)]

def patchStompBox : List (String × Param) := [
  ("STOMPBOX (Comp)", ⟨[0, 0], [0, 10], 1, numbered 0 ["---", "CMP-1 - 10"]⟩),
  ("STOMPBOX (Dist1)", ⟨[0, 1], [0, 10], 1, numbered 0 ["---", "DS-1 - 10"]⟩),
  ("STOMPBOX (Dist2)", ⟨[0, 2], [0, 10], 1, numbered 0 ["---", "DS-1 - 10"]⟩),
  ("STOMPBOX (Preamp1)", ⟨[0, 3], [0, 10], 1, numbered 0 ["---", "AMP-1 - 10"]⟩),
  ("STOMPBOX (Preamp2)", ⟨[0, 4], [0, 10], 1, numbered 0 ["---", "AMP-1 - 10"]⟩),
  ("STOMPBOX (Ns1)", ⟨[0, 5], [0, 10], 1, numbered 0 ["---", "NS-1 - 10"]⟩),
  ("STOMPBOX (Ns2)", ⟨[0, 6], [0, 10], 1, numbered 0 ["---", "NS-1 - 10"]⟩),
  ("STOMPBOX (Eq1)", ⟨[0, 7], [0, 10], 1, numbered 0 ["---", "EQ-1 - 10"]⟩),
  ("STOMPBOX (Eq2)", ⟨[0, 8], [0, 10], 1, numbered 0 ["---", "EQ-1 - 10"]⟩),
  ("STOMPBOX (Eq3)", ⟨[0, 9], [0, 10], 1, numbered 0 ["---", "EQ-1 - 10"]⟩),
  ("STOMPBOX (Eq4)", ⟨[0, 10], [0, 10], 1, numbered 0 ["---", "EQ-1 - 10"]⟩),
  ("STOMPBOX (Delay1)", ⟨[0, 11], [0, 10], 1, numbered 0 ["---", "DLY-1 - 10"]⟩),
  ("STOMPBOX (Delay2)", ⟨[0, 12], [0, 10], 1, numbered 0 ["---", "DLY-1 - 10"]⟩),
  ("STOMPBOX (Delay3)", ⟨[0, 13], [0, 10], 1, numbered 0 ["---", "DLY-1 - 10"]⟩),
  ("STOMPBOX (Delay4)", ⟨[0, 14], [0, 10], 1, numbered 0 ["---", "DLY-1 - 10"]⟩),
  ("STOMPBOX (MstDelay)", ⟨[0, 15], [0, 10], 1, numbered 0 ["---", "MDL-1 - 10"]⟩),
  ("STOMPBOX (Chorus)", ⟨[0, 16], [0, 10], 1, numbered 0 ["---", "CHO-1 - 10"]⟩),
  ("STOMPBOX (Fx1AGSim)", ⟨[0, 17], [0, 10], 1, numbered 0 ["---", "ACO-1 - 10"]⟩),
  ("STOMPBOX (Fx1AcReso)", ⟨[0, 18], [0, 10], 1, numbered 0 ["---", "ACR-1 - 10"]⟩),
  ("STOMPBOX (Fx1AWah)", ⟨[0, 19], [0, 10], 1, numbered 0 ["---", "AW-1 - 10"]⟩),
  ("STOMPBOX (Fx1Chorus)", ⟨[0, 20], [0, 10], 1, numbered 0 ["---", "CHO-1 - 10"]⟩),
  ("STOMPBOX (Fx1CVibe)", ⟨[0, 21], [0, 10], 1, numbered 0 ["---", "CV-1 - 10"]⟩),
  ("STOMPBOX (Fx1Comp)", ⟨[0, 22], [0, 10], 1, numbered 0 ["---", "CMP-1 - 10"]⟩),
  ("STOMPBOX (Fx1Defretter)", ⟨[0, 23], [0, 10], 1, numbered 0 ["---", "DEF-1 - 10"]⟩),
  ("STOMPBOX (Fx1Feedbacker)", ⟨[0, 24], [0, 10], 1, numbered 0 ["---", "FB-1 - 10"]⟩),
  ("STOMPBOX (Fx1Flanger)", ⟨[0, 25], [0, 10], 1, numbered 0 ["---", "FL-1 - 10"]⟩),
  ("STOMPBOX (Fx1Harmonist)", ⟨[0, 26], [0, 10], 1, numbered 0 ["---", "HRM-1 - 10"]⟩),
  ("STOMPBOX (Fx1Humanizer)", ⟨[0, 27], [0, 10], 1, numbered 0 ["---", "HMN-1 - 10"]⟩),
  ("STOMPBOX (Fx1Octave)", ⟨[0, 28], [0, 10], 1, numbered 0 ["---", "OC-1 - 10"]⟩),
  ("STOMPBOX (Fx1Overtone)", ⟨[0, 29], [0, 10], 1, numbered 0 ["---", "OT-1 - 10"]⟩),
  ("STOMPBOX (Fx1Pan)", ⟨[0, 30], [0, 10], 1, numbered 0 ["---", "PAN-1 - 10"]⟩),
  ("STOMPBOX (Fx1Phaser)", ⟨[0, 31], [0, 10], 1, numbered 0 ["---", "PH-1 - 10"]⟩),
  ("STOMPBOX (Fx1PitchShift)", ⟨[0, 32], [0, 10], 1, numbered 0 ["---", "PS-1 - 10"]⟩),
  ("STOMPBOX (Fx1RingMod)", ⟨[0, 33], [0, 10], 1, numbered 0 ["---", "RM-1 - 10"]⟩),
  ("STOMPBOX (Fx1Rotary)", ⟨[0, 34], [0, 10], 1, numbered 0 ["---", "RT-1 - 10"]⟩),
  ("STOMPBOX (Fx1SitarSim)", ⟨[0, 35], [0, 10], 1, numbered 0 ["---", "STR-1 - 10"]⟩),
  ("STOMPBOX (Fx1Slicer)", ⟨[0, 36], [0, 10], 1, numbered 0 ["---", "SL-1 - 10"]⟩),
  ("STOMPBOX (Fx1SlowGear)", ⟨[0, 37], [0, 10], 1, numbered 0 ["---", "SG-1 - 10"]⟩),
  ("STOMPBOX (Fx1SoundHold)", ⟨[0, 38], [0, 10], 1, numbered 0 ["---", "SH-1 - 10"]⟩),
  ("STOMPBOX (Fx1SBend)", ⟨[0, 39], [0, 10], 1, numbered 0 ["---", "SB-1 - 10"]⟩),
  ("STOMPBOX (Fx1TWah)", ⟨[0, 40], [0, 10], 1, numbered 0 ["---", "TW-1 - 10"]⟩),
  ("STOMPBOX (Fx1Tremolo)", ⟨[0, 41], [0, 10], 1, numbered 0 ["---", "TR-1 - 10"]⟩),
  ("STOMPBOX (Fx1Vibrato)", ⟨[0, 42], [0, 10], 1, numbered 0 ["---", "VIB-1 - 10"]⟩),
  ("STOMPBOX (Fx2AGSim)", ⟨[0, 43], [0, 10], 1, numbered 0 ["---", "ACO-1 - 10"]⟩),
  ("STOMPBOX (Fx2AcReso)", ⟨[0, 44], [0, 10], 1, numbered 0 ["---", "ACR-1 - 10"]⟩),
  ("STOMPBOX (Fx2AWah)", ⟨[0, 45], [0, 10], 1, numbered 0 ["---", "AW-1 - 10"]⟩),
  ("STOMPBOX (Fx2Chorus)", ⟨[0, 46], [0, 10], 1, numbered 0 ["---", "CHO-1 - 10"]⟩),
  ("STOMPBOX (Fx2CVibe)", ⟨[0, 47], [0, 10], 1, numbered 0 ["---", "CV-1 - 10"]⟩),
  ("STOMPBOX (Fx2Comp)", ⟨[0, 48], [0, 10], 1, numbered 0 ["---", "CMP-1 - 10"]⟩),
  ("STOMPBOX (Fx2Defretter)", ⟨[0, 49], [0, 10], 1, numbered 0 ["---", "DEF-1 - 10"]⟩),
  ("STOMPBOX (Fx2Feedbacker)", ⟨[0, 50], [0, 10], 1, numbered 0 ["---", "FB-1 - 10"]⟩),
  ("STOMPBOX (Fx2Flanger)", ⟨[0, 51], [0, 10], 1, numbered 0 ["---", "FL-1 - 10"]⟩),
  ("STOMPBOX (Fx2Harmonist)", ⟨[0, 52], [0, 10], 1, numbered 0 ["---", "HRM-1 - 10"]⟩),
  ("STOMPBOX (Fx2Humanizer)", ⟨[0, 53], [0, 10], 1, numbered 0 ["---", "HMN-1 - 10"]⟩),
  ("STOMPBOX (Fx2Octave)", ⟨[0, 54], [0, 10], 1, numbered 0 ["---", "OC-1 - 10"]⟩),
  ("STOMPBOX (Fx2Overtone)", ⟨[0, 55], [0, 10], 1, numbered 0 ["---", "OT-1 - 10"]⟩),
  ("STOMPBOX (Fx2Pan)", ⟨[0, 56], [0, 10], 1, numbered 0 ["---", "PAN-1 - 10"]⟩),
  ("STOMPBOX (Fx2Phaser)", ⟨[0, 57], [0, 10], 1, numbered 0 ["---", "PH-1 - 10"]⟩),
  ("STOMPBOX (Fx2PitchShift)", ⟨[0, 58], [0, 10], 1, numbered 0 ["---", "PS-1 - 10"]⟩),
  ("STOMPBOX (Fx2RingMod)", ⟨[0, 59], [0, 10], 1, numbered 0 ["---", "RM-1 - 10"]⟩),
  ("STOMPBOX (Fx2Rotary)", ⟨[0, 60], [0, 10], 1, numbered 0 ["---", "RT-1 - 10"]⟩),
  ("STOMPBOX (Fx2SitarSim)", ⟨[0, 61], [0, 10], 1, numbered 0 ["---", "STR-1 - 10"]⟩),
  ("STOMPBOX (Fx2Slicer)", ⟨[0, 62], [0, 10], 1, numbered 0 ["---", "SL-1 - 10"]⟩),
  ("STOMPBOX (Fx2SlowGear)", ⟨[0, 63], [0, 10], 1, numbered 0 ["---", "SG-1 - 10"]⟩),
  ("STOMPBOX (Fx2SoundHold)", ⟨[0, 64], [0, 10], 1, numbered 0 ["---", "SH-1 - 10"]⟩),
  ("STOMPBOX (Fx2SBend)", ⟨[0, 65], [0, 10], 1, numbered 0 ["---", "SB-1 - 10"]⟩),
  ("STOMPBOX (Fx2TWah)", ⟨[0, 66], [0, 10], 1, numbered 0 ["---", "TW-1 - 10"]⟩),
  ("STOMPBOX (Fx2Tremolo)", ⟨[0, 67], [0, 10], 1, numbered 0 ["---", "TR-1 - 10"]⟩),
  ("STOMPBOX (Fx2Vibrato)", ⟨[0, 68], [0, 10], 1, numbered 0 ["---", "VIB-1 - 10"]⟩),
  ("STOMPBOX (Fx3AGSim)", ⟨[0, 69], [0, 10], 1, numbered 0 ["---", "ACO-1 - 10"]⟩),
  ("STOMPBOX (Fx3AcReso)", ⟨[0, 70], [0, 10], 1, numbered 0 ["---", "ACR-1 - 10"]⟩),
  ("STOMPBOX (Fx3AWah)", ⟨[0, 71], [0, 10], 1, numbered 0 ["---", "AW-1 - 10"]⟩),
  ("STOMPBOX (Fx3Chorus)", ⟨[0, 72], [0, 10], 1, numbered 0 ["---", "CHO-1 - 10"]⟩),
  ("STOMPBOX (Fx3CVibe)", ⟨[0, 73], [0, 10], 1, numbered 0 ["---", "CV-1 - 10"]⟩),
  ("STOMPBOX (Fx3Comp)", ⟨[0, 74], [0, 10], 1, numbered 0 ["---", "CMP-1 - 10"]⟩),
  ("STOMPBOX (Fx3Defretter)", ⟨[0, 75], [0, 10], 1, numbered 0 ["---", "DEF-1 - 10"]⟩),
  ("STOMPBOX (Fx3Feedbacker)", ⟨[0, 76], [0, 10], 1, numbered 0 ["---", "FB-1 - 10"]⟩),
  ("STOMPBOX (Fx3Flanger)", ⟨[0, 77], [0, 10], 1, numbered 0 ["---", "FL-1 - 10"]⟩),
  ("STOMPBOX (Fx3Harmonist)", ⟨[0, 78], [0, 10], 1, numbered 0 ["---", "HRM-1 - 10"]⟩),
  ("STOMPBOX (Fx3Humanizer)", ⟨[0, 79], [0, 10], 1, numbered 0 ["---", "HMN-1 - 10"]⟩),
  ("STOMPBOX (Fx3Octave)", ⟨[0, 80], [0, 10], 1, numbered 0 ["---", "OC-1 - 10"]⟩),
  ("STOMPBOX (Fx3Overtone)", ⟨[0, 81], [0, 10], 1, numbered 0 ["---", "OT-1 - 10"]⟩),
  ("STOMPBOX (Fx3Pan)", ⟨[0, 82], [0, 10], 1, numbered 0 ["---", "PAN-1 - 10"]⟩),
  ("STOMPBOX (Fx3Phaser)", ⟨[0, 83], [0, 10], 1, numbered 0 ["---", "PH-1 - 10"]⟩),
  ("STOMPBOX (Fx3PitchShift)", ⟨[0, 84], [0, 10], 1, numbered 0 ["---", "PS-1 - 10"]⟩),
  ("STOMPBOX (Fx3RingMod)", ⟨[0, 85], [0, 10], 1, numbered 0 ["---", "RM-1 - 10"]⟩),
  ("STOMPBOX (Fx3Rotary)", ⟨[0, 86], [0, 10], 1, numbered 0 ["---", "RT-1 - 10"]⟩),
  ("STOMPBOX (Fx3SitarSim)", ⟨[0, 87], [0, 10], 1, numbered 0 ["---", "STR-1 - 10"]⟩),
  ("STOMPBOX (Fx3Slicer)", ⟨[0, 88], [0, 10], 1, numbered 0 ["---", "SL-1 - 10"]⟩),
  ("STOMPBOX (Fx3SlowGear)", ⟨[0, 89], [0, 10], 1, numbered 0 ["---", "SG-1 - 10"]⟩),
  ("STOMPBOX (Fx3SoundHold)", ⟨[0, 90], [0, 10], 1, numbered 0 ["---", "SH-1 - 10"]⟩),
  ("STOMPBOX (Fx3SBend)", ⟨[0, 91], [0, 10], 1, numbered 0 ["---", "SB-1 - 10"]⟩),
  ("STOMPBOX (Fx3TWah)", ⟨[0, 92], [0, 10], 1, numbered 0 ["---", "TW-1 - 10"]⟩),
  ("STOMPBOX (Fx3Tremolo)", ⟨[0, 93], [0, 10], 1, numbered 0 ["---", "TR-1 - 10"]⟩),
  ("STOMPBOX (Fx3Vibrato)", ⟨[0, 94], [0, 10], 1, numbered 0 ["---", "VIB-1 - 10"]⟩),
  ("STOMPBOX (Reverb)", ⟨[0, 95], [0, 10], 1, numbered 0 ["---", "REV-1 - 10"]⟩),
  ("STOMPBOX (PedalFx)", ⟨[0, 96], [0, 10], 1, numbered 0 ["---", "PFX-1 - 10"]⟩),
  ("STOMPBOX (Divider1)", ⟨[0, 97], [0, 10], 1, numbered 0 ["---", "DIV-1 - 10"]⟩),
  ("STOMPBOX (Divider2)", ⟨[0, 98], [0, 10], 1, numbered 0 ["---", "DIV-1 - 10"]⟩),
  ("STOMPBOX (Divider3)", ⟨[0, 99], [0, 10], 1, numbered 0 ["---", "DIV-1 - 10"]⟩)]

def patchLed : List (String × Param) := [
  ("NUM1 OFF", ⟨[0, 0], [0, 10], 1, numbered 0 ledOffColors⟩),
  ("NUM1 ON", ⟨[0, 1], [0, 21], 1, numbered 0 ledOnColors⟩),
  ("NUM2 OFF", ⟨[0, 2], [0, 10], 1, numbered 0 ledOffColors⟩),
  ("NUM2 ON", ⟨[0, 3], [0, 21], 1, numbered 0 ledOnColors⟩),
  ("NUM3 OFF", ⟨[0, 4], [0, 10], 1, numbered 0 ledOffColors⟩),
  ("NUM3 ON", ⟨[0, 5], [0, 21], 1, numbered 0 ledOnColors⟩),
  ("NUM4 OFF", ⟨[0, 6], [0, 10], 1, numbered 0 ledOffColors⟩),
  ("NUM4 ON", ⟨[0, 7], [0, 21], 1, numbered 0 ledOnColors⟩),
  ("NUM5 OFF", ⟨[0, 8], [0, 10], 1, numbered 0 ledOffColors⟩),
  ("NUM5 ON", ⟨[0, 9], [0, 21], 1, numbered 0 ledOnColors⟩),
  ("BANKDOWN OFF", ⟨[0, 10], [0, 10], 1, numbered 0 ledOffColors⟩),
  ("BANKDOWN ON", ⟨[0, 11], [0, 21], 1, numbered 0 ledOnColors⟩),
  ("BANKUP OFF", ⟨[0, 12], [0, 10], 1, numbered 0 ledOffColors⟩),
  ("BANKUP ON", ⟨[0, 13], [0, 21], 1, numbered 0 ledOnColors⟩),
  ("CTL1 OFF", ⟨[0, 14], [0, 10], 1, numbered 0 ledOffColors⟩),
  ("CTL1 ON", ⟨[0, 15], [0, 21], 1, numbered 0 ledOnColors⟩),
  ("CTL2 OFF", ⟨[0, 16], [0, 10], 1, numbered 0 ledOffColors⟩),
  ("CTL2 ON", ⟨[0, 17], [0, 21], 1, numbered 0 ledOnColors⟩),
  ("CTL3 OFF", ⟨[0, 18], [0, 10], 1, numbered 0 ledOffColors⟩),
  ("CTL3 ON", ⟨[0, 19], [0, 21], 1, numbered 0 ledOnColors⟩),
  ("EXP1 SW OFF", ⟨[0, 20], [0, 10], 1, numbered 0 ledOffColors⟩),
  ("EXP1 SW ON", ⟨[0, 21], [0, 21], 1, numbered 0 ledOnColors⟩),
  ("ON OFF STATE", ⟨[0, 22], [0, 2147483647], 8, numbered 0 ["*3"]⟩)]

def patchEfct : List (String × Param) := [
  ("FOOT VOLUME:VOLUME MIN", ⟨[0, 0], [0, 1000], 4, numbered 0 ["0.0 - 100.0"]⟩),
  ("FOOT VOLUME:VOLUME MAX", ⟨[0, 4], [0, 1000], 4, numbered 0 ["0.0 - 100.0"]⟩),
  ("FOOT VOLUME:PEDAL POSITION", ⟨[0, 8], [0, 1000], 4, numbered 0 ["0.0 - 100.0"]⟩),
  ("FOOT VOLUME:VOLUME CURVE", ⟨[0, 12], [0, 3], 1, numbered 0 [
     "SLOW1", "SLOW2", "NORMAL", "FAST"]⟩),
  ("DIV1:MODE", ⟨[0, 13], [0, 1], 1, numbered 0 ["SINGLE", "DUAL"]⟩),
  ("DIV1:CH SELECT", ⟨[0, 14], [0, 1], 1, numbered 0 ["A", "B"]⟩),
  ("DIV1 A:DYNAMIC", ⟨[0, 15], [0, 2], 1, numbered 0 dynamics⟩),
  ("DIV1 A:DYNA SENS", ⟨[0, 16], [0, 100], 1, []⟩),
  ("DIV1 A:FILTER", ⟨[0, 17], [0, 2], 1, numbered 0 dividerFilters⟩),
  ("DIV1 A:CUTOFF FREQ", ⟨[0, 18], [0, 16], 1, numbered 0 cutoffFreqs⟩),
  ("DIV1 B:DYNAMIC", ⟨[0, 19], [0, 2], 1, numbered 0 dynamics⟩),
  ("DIV1 B:DYNA SENS", ⟨[0, 20], [0, 100], 1, []⟩),
  ("DIV1 B:FILTER", ⟨[0, 21], [0, 2], 1, numbered 0 dividerFilters⟩),
  ("DIV1 B:CUTOFF FREQ", ⟨[0, 22], [0, 16], 1, numbered 0 cutoffFreqs⟩),
  ("MIX1:MODE", ⟨[0, 23], [0, 1], 1, numbered 0 ["STEREO", "PAN L/R"]⟩),
  ("MIX1:A/B BALANCE", ⟨[0, 24], [0, 100], 1, numbered 0 balances⟩),
  ("MIX1:SPREAD", ⟨[0, 25], [0, 100], 1, []⟩),
  ("DIV2:MODE", ⟨[0, 26], [0, 1], 1, numbered 0 ["SINGLE", "DUAL"]⟩),
  ("DIV2:CH SELECT", ⟨[0, 27], [0, 1], 1, numbered 0 ["A", "B"]⟩),
  ("DIV2 A:DYNAMIC", ⟨[0, 28], [0, 2], 1, numbered 0 dynamics⟩),
  ("DIV2 A:DYNA SENS", ⟨[0, 29], [0, 100], 1, []⟩),
  ("DIV2 A:FILTER", ⟨[0, 30], [0, 2], 1, numbered 0 dividerFilters⟩),
  ("DIV2 A:CUTOFF FREQ", ⟨[0, 31], [0, 16], 1, numbered 0 cutoffFreqs⟩),
  ("DIV2 B:DYNAMIC", ⟨[0, 32], [0, 2], 1, numbered 0 dynamics⟩),
  ("DIV2 B:DYNA SENS", ⟨[0, 33], [0, 100], 1, []⟩),
  ("DIV2 B:FILTER", ⟨[0, 34], [0, 2], 1, numbered 0 dividerFilters⟩),
  ("DIV2 B:CUTOFF FREQ", ⟨[0, 35], [0, 16], 1, numbered 0 cutoffFreqs⟩),
  ("MIX2:MODE", ⟨[0, 36], [0, 1], 1, numbered 0 ["STEREO", "PAN L/R"]⟩),
  ("MIX2:A/B BALANCE", ⟨[0, 37], [0, 100], 1, numbered 0 balances⟩),
  ("MIX2:SPREAD", ⟨[0, 38], [0, 100], 1, []⟩),
  ("DIV3:MODE", ⟨[0, 39], [0, 1], 1, numbered 0 ["SINGLE", "DUAL"]⟩),
  ("DIV3:CH SELECT", ⟨[0, 40], [0, 1], 1, numbered 0 ["A", "B"]⟩),
  ("DIV3 A:DYNAMIC", ⟨[0, 41], [0, 2], 1, numbered 0 dynamics⟩),
  ("DIV3 A:DYNA SENS", ⟨[0, 42], [0, 100], 1, []⟩),
  ("DIV3 A:FILTER", ⟨[0, 43], [0, 2], 1, numbered 0 dividerFilters⟩),
  ("DIV3 A:CUTOFF FREQ", ⟨[0, 44], [0, 16], 1, numbered 0 cutoffFreqs⟩),
  ("DIV3 B:DYNAMIC", ⟨[0, 45], [0, 2], 1, numbered 0 dynamics⟩),
  ("DIV3 B:DYNA SENS", ⟨[0, 46], [0, 100], 1, []⟩),
  ("DIV3 B:FILTER", ⟨[0, 47], [0, 2], 1, numbered 0 dividerFilters⟩),
  ("DIV3 B:CUTOFF", ⟨[0, 48], [0, 16], 1, numbered 0 cutoffFreqs⟩),
  ("MIX3:MODE", ⟨[0, 49], [0, 1], 1, numbered 0 ["STEREO", "PAN L/R"]⟩),
  ("MIX3:A/B BALANCE", ⟨[0, 50], [0, 100], 1, numbered 0 balances⟩),
  ("MIX3:SPREAD", ⟨[0, 51], [0, 100], 1, []⟩),
  ("SEND/RETURN 1/2:STEREO LINK", ⟨[0, 52], [0, 1], 1, numbered 0 onOff⟩),
  ("SEND/RETURN 1:ON/OFF", ⟨[0, 53], [0, 1], 1, numbered 0 onOff⟩),
  ("SEND/RETURN 1:MODE", ⟨[0, 54], [0, 2], 1, numbered 0 sendModes⟩),
  ("SEND/RETURN 1:SEND LEVEL", ⟨[0, 55], [0, 200], 2, []⟩),
  ("SEND/RETURN 1:RETURN LEVEL", ⟨[0, 57], [0, 200], 2, []⟩),
  ("SEND/RETURN 1:ADJUST", ⟨[0, 59], [0, 100], 1, []⟩),
  ("SEND/RETURN 2:ON/OFF", ⟨[0, 60], [0, 1], 1, numbered 0 onOff⟩),
  ("SEND/RETURN 2:MODE", ⟨[0, 61], [0, 2], 1, numbered 0 sendModes⟩),
  ("SEND/RETURN 2:SEND LEVEL", ⟨[0, 62], [0, 200], 2, []⟩),
  ("SEND/RETURN 2:RETURN LEVEL", ⟨[0, 64], [0, 200], 2, []⟩),
  ("SEND/RETURN 2:ADJUST", ⟨[0, 66], [0, 100], 1, []⟩),
  ("N/A(fixed value)", ⟨[0, 67], [1], 1, []⟩),
  ("LOOPER:PLAY LEVEL", ⟨[0, 68], [0, 100], 1, []⟩),
  ("MAIN:STEREO LINK", ⟨[0, 69], [0, 1], 1, numbered 0 onOff⟩),
  ("MAIN L:SP TYPE", ⟨[0, 70], [0, 29], 1, numbered 0 speakerTypes⟩),
  ("MAIN L:MIC TYPE", ⟨[0, 71], [0, 4], 1, numbered 0 micTypes⟩),
  ("MAIN L:MIC DISTANCE", ⟨[0, 72], [0, 2], 1, numbered 0 micDistances⟩),
  ("MAIN L:MIC POSITION", ⟨[0, 73], [0, 10], 1, numbered 0 ["CENTER", "1cm - 10cm"]⟩),
  ("MAIN L:MIC LEVEL", ⟨[0, 74], [0, 100], 1, []⟩),
  ("MAIN L:DIRECT MIX", ⟨[0, 75], [0, 100], 1, []⟩),
  ("MAIN R:SP TYPE", ⟨[0, 76], [0, 29], 1, numbered 0 speakerTypes⟩),
  ("MAIN R:MIC TYPE", ⟨[0, 77], [0, 4], 1, numbered 0 micTypes⟩),
  ("MAIN R:MIC DISTANCE", ⟨[0, 78], [0, 2], 1, numbered 0 micDistances⟩),
  ("MAIN R:MIC POSITION", ⟨[0, 79], [0, 10], 1, numbered 0 ["CENTER", "1cm - 10cm"]⟩),
  ("MAIN R:MIC LEVEL", ⟨[0, 80], [0, 100], 1, []⟩),
  ("MAIN R:DIRECT MIX", ⟨[0, 81], [0, 100], 1, []⟩),
  ("SUB:STEREO LINK", ⟨[0, 82], [0, 1], 1, numbered 0 onOff⟩),
  ("SUB L:SP TYPE", ⟨[0, 83], [0, 29], 1, numbered 0 speakerTypes⟩),
  ("SUB L:MIC TYPE", ⟨[0, 84], [0, 4], 1, numbered 0 micTypes⟩),
  ("SUB L:MIC DISTANCE", ⟨[0, 85], [0, 2], 1, numbered 0 micDistances⟩),
  ("SUB L:MIC POSITION", ⟨[0, 86], [0, 10], 1, numbered 0 ["CENTER", "1cm - 10cm"]⟩),
  ("SUB L:MIC LEVEL", ⟨[0, 87], [0, 100], 1, []⟩),
  ("SUB L:DIRECT MIX", ⟨[0, 88], [0, 100], 1, []⟩),
  ("SUB R:SP TYPE", ⟨[0, 89], [0, 29], 1, numbered 0 speakerTypes⟩),
  ("SUB R:MIC TYPE", ⟨[0, 90], [0, 4], 1, numbered 0 micTypes⟩),
  ("SUB R:MIC DISTANCE", ⟨[0, 91], [0, 2], 1, numbered 0 micDistances⟩),
  ("SUB R:MIC POSITION", ⟨[0, 92], [0, 10], 1, numbered 0 ["CENTER", "1cm - 10cm"]⟩),
  ("SUB R:MIC LEVEL", ⟨[0, 93], [0, 100], 1, []⟩),
  ("SUB R:DIRECT MIX", ⟨[0, 94], [0, 100], 1, []⟩),
  ("MASTER:PATCH LEVEL", ⟨[0, 95], [0, 200], 2, []⟩),
  ("MASTER:BPM", ⟨[0, 97], [400, 2500], 4, []⟩),
  ("MASTER:KEY", ⟨[0, 101], [0, 11], 1, numbered 0 [
     "C(Am)", "Db(Bbm)", "D(Bm)", "Eb(Cm)", "E(C#m)", "F(Dm)", "F#(D#m)", "G(Em)", "Ab(Fm)",
     "A(F#m)", "Bb(Gm)", "B(G#m)"]⟩),
  ("MASTER:AMP CTL1", ⟨[0, 102], [0, 1], 1, numbered 0 onOff⟩),
  ("MASTER:AMP CTL2", ⟨[0, 103], [0, 1], 1, numbered 0 onOff⟩),
  ("CHAIN ELEMENT1", ⟨[0, 104], [0, 48], 1, numbered 0 ["*4"]⟩),
  ("CHAIN ELEMENT2", ⟨[0, 105], [0, 48], 1, numbered 0 ["*4"]⟩),
  ("CHAIN ELEMENT3", ⟨[0, 106], [0, 48], 1, numbered 0 ["*4"]⟩),
  ("CHAIN ELEMENT4", ⟨[0, 107], [0, 48], 1, numbered 0 ["*4"]⟩),
  ("CHAIN ELEMENT5", ⟨[0, 108], [0, 48], 1, numbered 0 ["*4"]⟩),
  ("CHAIN ELEMENT6", ⟨[0, 109], [0, 48], 1, numbered 0 ["*4"]⟩),
  ("CHAIN ELEMENT7", ⟨[0, 110], [0, 48], 1, numbered 0 ["*4"]⟩),
  ("CHAIN ELEMENT8", ⟨[0, 111], [0, 48], 1, numbered 0 ["*4"]⟩),
  ("CHAIN ELEMENT9", ⟨[0, 112], [0, 48], 1, numbered 0 ["*4"]⟩),
  ("CHAIN ELEMENT10", ⟨[0, 113], [0, 48], 1, numbered 0 ["*4"]⟩),
  ("CHAIN ELEMENT11", ⟨[0, 114], [0, 48], 1, numbered 0 ["*4"]⟩),
  ("CHAIN ELEMENT12", ⟨[0, 115], [0, 48], 1, numbered 0 ["*4"]⟩),
  ("CHAIN ELEMENT13", ⟨[0, 116], [0, 48], 1, numbered 0 ["*4"]⟩),
  ("CHAIN ELEMENT14", ⟨[0, 117], [0, 48], 1, numbered 0 ["*4"]⟩),
  ("CHAIN ELEMENT15", ⟨[0, 118], [0, 48], 1, numbered 0 ["*4"]⟩),
  ("CHAIN ELEMENT16", ⟨[0, 119], [0, 48], 1, numbered 0 ["*4"]⟩),
  ("CHAIN ELEMENT17", ⟨[0, 120], [0, 48], 1, numbered 0 ["*4"]⟩),
  ("CHAIN ELEMENT18", ⟨[0, 121], [0, 48], 1, numbered 0 ["*4"]⟩),
  ("CHAIN ELEMENT19", ⟨[0, 122], [0, 48], 1, numbered 0 ["*4"]⟩),
  ("CHAIN ELEMENT20", ⟨[0, 123], [0, 48], 1, numbered 0 ["*4"]⟩),
  ("CHAIN ELEMENT21", ⟨[0, 124], [0, 48], 1, numbered 0 ["*4"]⟩),
  ("CHAIN ELEMENT22", ⟨[0, 125], [0, 48], 1, numbered 0 ["*4"]⟩),
  ("CHAIN ELEMENT23", ⟨[0, 126], [0, 48], 1, numbered 0 ["*4"]⟩),
  ("CHAIN ELEMENT24", ⟨[0, 127], [0, 48], 1, numbered 0 ["*4"]⟩),
  ("CHAIN ELEMENT25", ⟨[1, 0], [0, 48], 1, numbered 0 ["*4"]⟩),
  ("CHAIN ELEMENT26", ⟨[1, 1], [0, 48], 1, numbered 0 ["*4"]⟩),
  ("CHAIN ELEMENT27", ⟨[1, 2], [0, 48], 1, numbered 0 ["*4"]⟩),
  ("CHAIN ELEMENT28", ⟨[1, 3], [0, 48], 1, numbered 0 ["*4"]⟩),
  ("CHAIN ELEMENT29", ⟨[1, 4], [0, 48], 1, numbered 0 ["*4"]⟩),
  ("CHAIN ELEMENT30", ⟨[1, 5], [0, 48], 1, numbered 0 ["*4"]⟩),
  ("CHAIN ELEMENT31", ⟨[1, 6], [0, 48], 1, numbered 0 ["*4"]⟩),
  ("CHAIN ELEMENT32", ⟨[1, 7], [0, 48], 1, numbered 0 ["*4"]⟩),
  ("CHAIN ELEMENT33", ⟨[1, 8], [0, 48], 1, numbered 0 ["*4"]⟩),
  ("CHAIN ELEMENT34", ⟨[1, 9], [0, 48], 1, numbered 0 ["*4"]⟩),
  ("CHAIN ELEMENT35", ⟨[1, 10], [0, 48], 1, numbered 0 ["*4"]⟩),
  ("CHAIN ELEMENT36", ⟨[1, 11], [0, 48], 1, numbered 0 ["*4"]⟩),
  ("CHAIN ELEMENT37", ⟨[1, 12], [0, 48], 1, numbered 0 ["*4"]⟩),
  ("CHAIN ELEMENT38", ⟨[1, 13], [0, 48], 1, numbered 0 ["*4"]⟩),
  ("CHAIN ELEMENT39", ⟨[1, 14], [0, 48], 1, numbered 0 ["*4"]⟩),
  ("CHAIN ELEMENT40", ⟨[1, 15], [0, 48], 1, numbered 0 ["*4"]⟩),
  ("CHAIN ELEMENT41", ⟨[1, 16], [0, 48], 1, numbered 0 ["*4"]⟩),
  ("CHAIN ELEMENT42", ⟨[1, 17], [0, 48], 1, numbered 0 ["*4"]⟩),
  ("CHAIN ELEMENT43", ⟨[1, 18], [0, 48], 1, numbered 0 ["*4"]⟩),
  ("CHAIN ELEMENT44", ⟨[1, 19], [0, 48], 1, numbered 0 ["*4"]⟩),
  ("CHAIN ELEMENT45", ⟨[1, 20], [0, 48], 1, numbered 0 ["*4"]⟩),
  ("CHAIN ELEMENT46", ⟨[1, 21], [0, 48], 1, numbered 0 ["*4"]⟩),
  ("CHAIN ELEMENT47", ⟨[1, 22], [0, 48], 1, numbered 0 ["*4"]⟩),
  ("CHAIN ELEMENT48", ⟨[1, 23], [0, 48], 1, numbered 0 ["*4"]⟩),
  ("CHAIN ELEMENT49", ⟨[1, 24], [0, 48], 1, numbered 0 [
     "*4", "From \"CHAIN ELEMENT1\" to \"CHAIN ELEMENT49\" are", "group parameters.",
     "The DT1 to each parameter is temporarily", "suspended",
     "and the DT1 to the group parameter", "final address automatically checks the pending",
     "parameters", "and if there is no problem", "the value",
     "is set. If the value is incomplete it will not be", "set.",
     "Parameters before set are read out for the RQ1 to",
     "pending parameters. Pending values can not be", "read."]⟩),
  ("MASTER:CARRYOVER", ⟨[1, 25], [0, 1], 1, numbered 0 onOff⟩),
  ("CONTROL/ASSIGN:TEMPO HOLD", ⟨[1, 26], [0, 1], 1, numbered 0 onOff⟩),
  ("CONTROL/ASSIGN:INPUT SENS", ⟨[1, 27], [0, 100], 1, []⟩),
  ("BASS MODE", ⟨[1, 28], [0, 1], 1, numbered 0 onOff⟩),
  ("FX EXPANSION(*)", ⟨[1, 29], [0, 1], 1, numbered 0 onOff⟩),
  ("MAIN CH SELECT(*)", ⟨[1, 30], [0, 1], 1, numbered 0 ["L", "R"]⟩),
  ("SUB CH SELECT(*)", ⟨[1, 31], [0, 1], 1, numbered 0 ["L", "R"]⟩),
  ("ROUTING(**)", ⟨[1, 32], [0, 1], 1, numbered 0 ["STEREO", "SELECTOR"]⟩)]

end Pygt1000.Specs
