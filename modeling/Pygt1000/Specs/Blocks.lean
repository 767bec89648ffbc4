import Pygt1000.Specs.Param

/-!
# Value tables of the top-level blocks
-/

namespace Pygt1000.Specs

def patchComp : List (String × Param) := [
  ("SW", ⟨[0, 0], [0, 1], 1, numbered 0 onOff⟩),
  ("TYPE", ⟨[0, 1], [0, 5], 1, numbered 0 compTypes⟩),
  ("SUSTAIN", ⟨[0, 2], [0, 100], 1, []⟩),
  ("ATTACK", ⟨[0, 3], [0, 100], 1, []⟩),
  ("LEVEL", ⟨[0, 4], [0, 100], 1, []⟩),
  ("TONE", ⟨[0, 5], [14, 114], 1, numbered 14 signed50⟩),
  ("RATIO", ⟨[0, 6], [0, 17], 1, numbered 0 compRatios⟩),
  ("DIRECT MIX", ⟨[0, 7], [0, 100], 1, []⟩),
  ("THRESHOLD", ⟨[0, 8], [0, 100], 1, []⟩)]

def patchDist : List (String × Param) := [
  ("SW", ⟨[0, 0], [0, 1], 1, numbered 0 onOff⟩),
  ("TYPE", ⟨[0, 1], [0, 36], 1, numbered 0 distTypes⟩),
  ("DRIVE", ⟨[0, 2], [0, 120], 1, []⟩),
  ("TONE", ⟨[0, 3], [14, 114], 1, numbered 14 ["-50 - 50"]⟩),
  ("LEVEL", ⟨[0, 4], [0, 100], 1, []⟩),
  ("BOTTOM", ⟨[0, 5], [14, 114], 1, numbered 14 ["-50 - 50"]⟩),
  ("DIRECT MIX", ⟨[0, 6], [0, 100], 1, []⟩),
  ("SOLO SW", ⟨[0, 7], [0, 1], 1, numbered 0 onOff⟩),
  ("SOLO LEVEL", ⟨[0, 8], [0, 100], 1, []⟩)]

def patchPreamp : List (String × Param) := [
  ("SW", ⟨[0, 0], [0, 1], 1, numbered 0 onOff⟩),
  ("TYPE", ⟨[0, 1], [0, 22], 1, numbered 0 [
     "TRANSPARENT", "NATURAL", "BOUTIQUE", "SUPREME", "MAXIMUM", "JUGGERNAUT", "X-CRUNCH",
     "X-HI GAIN", "X-MODDED", "JC-120", "TWIN COMBO", "DELUXE COMBO", "TWEED COMBO",
     "DIAMOND AMP", "BRIT STACK", "RECTI STACK", "MATCH COMBO", "BG COMBO", "ORNG STACK",
     "BGNR UB METAL", "NATURAL BASS", "X-DRIVE BASS", "CONCERT"]⟩),
  ("GAIN", ⟨[0, 2], [0, 120], 1, []⟩),
  ("SAG", ⟨[0, 3], [6, 26], 1, numbered 6 signed10⟩),
  ("RESONANCE", ⟨[0, 4], [6, 26], 1, numbered 6 signed10⟩),
  ("LEVEL", ⟨[0, 5], [0, 100], 1, []⟩),
  ("BASS", ⟨[0, 6], [0, 100], 1, []⟩),
  ("MIDDLE", ⟨[0, 7], [0, 100], 1, []⟩),
  ("TREBLE", ⟨[0, 8], [0, 100], 1, []⟩),
  ("PRESENCE", ⟨[0, 9], [0, 100], 1, []⟩),
  ("BRIGHT", ⟨[0, 10], [0, 1], 1, numbered 0 onOff⟩),
  ("GAIN SW", ⟨[0, 11], [0, 2], 1, numbered 0 ["LOW", "MIDDLE", "HIGH"]⟩),
  ("SOLO SW", ⟨[0, 12], [0, 1], 1, numbered 0 onOff⟩),
  ("SOLO LEVEL", ⟨[0, 13], [0, 100], 1, []⟩)]

def patchNs : List (String × Param) := [
  ("SW", ⟨[0, 0], [0, 1], 1, numbered 0 onOff⟩),
  ("THRESHOLD", ⟨[0, 1], [0, 100], 1, []⟩),
  ("RELEASE", ⟨[0, 2], [0, 100], 1, []⟩),
  ("DETECT", ⟨[0, 3], [0, 2], 1, numbered 0 ["INPUT", "NS INPUT", "FV OUT"]⟩)]

def patchEq : List (String × Param) := [
  ("SW", ⟨[0, 0], [0, 1], 1, numbered 0 onOff⟩),
  ("TYPE", ⟨[0, 1], [0, 1], 1, numbered 0 ["PARAMETRIC", "GRAPHIC"]⟩),
  ("LOW GAIN", ⟨[0, 2], [12, 52], 1, numbered 12 gainsDb⟩),
  ("HIGH GAIN", ⟨[0, 3], [12, 52], 1, numbered 12 gainsDb⟩),
  ("LEVEL", ⟨[0, 4], [12, 52], 1, numbered 12 gainsDb⟩),
  ("LOW-MID FREQ", ⟨[0, 5], [0, 29], 1, numbered 0 midFreqs⟩),
  ("LOW-MID Q", ⟨[0, 6], [0, 5], 1, numbered 0 midQs⟩),
  ("LOW-MID GAIN", ⟨[0, 7], [12, 52], 1, numbered 12 gainsDb⟩),
  ("HIGH-MID FREQ", ⟨[0, 8], [0, 29], 1, numbered 0 midFreqs⟩),
  ("HIGH-MID Q", ⟨[0, 9], [0, 5], 1, numbered 0 midQs⟩),
  ("HIGH-MID GAIN", ⟨[0, 10], [12, 52], 1, numbered 12 gainsDb⟩),
  ("LOW CUT", ⟨[0, 11], [0, 31], 1, numbered 0 lowCuts⟩),
  ("HIGH CUT", ⟨[0, 12], [0, 31], 1, numbered 0 highCuts⟩),
  ("LEVEL1", ⟨[0, 13], [12, 52], 1, numbered 12 gainsDb⟩),
  ("31.5Hz", ⟨[0, 14], [12, 52], 1, numbered 12 gainsDb⟩),
  ("63Hz", ⟨[0, 15], [12, 52], 1, numbered 12 gainsDb⟩),
  ("125Hz", ⟨[0, 16], [12, 52], 1, numbered 12 gainsDb⟩),
  ("250Hz", ⟨[0, 17], [12, 52], 1, numbered 12 gainsDb⟩),
  ("500Hz", ⟨[0, 18], [12, 52], 1, numbered 12 gainsDb⟩),
  ("1kHz", ⟨[0, 19], [12, 52], 1, numbered 12 gainsDb⟩),
  ("2kHz", ⟨[0, 20], [12, 52], 1, numbered 12 gainsDb⟩),
  ("4kHz", ⟨[0, 21], [12, 52], 1, numbered 12 gainsDb⟩),
  ("8kHz", ⟨[0, 22], [12, 52], 1, numbered 12 gainsDb⟩),
  ("16kHz", ⟨[0, 23], [12, 52], 1, numbered 12 gainsDb⟩)]

def patchDelay : List (String × Param) := [
  ("SW", ⟨[0, 0], [0, 1], 1, numbered 0 onOff⟩),
  ("TIME", ⟨[0, 1], [1, 2018], 4, numbered 2001 noteTimes⟩),
  ("FEEDBACK", ⟨[0, 5], [0, 100], 1, []⟩),
  ("HIGH CUT", ⟨[0, 6], [0, 31], 1, numbered 0 highCuts⟩),
  ("EFFECT LEVEL", ⟨[0, 7], [0, 120], 1, []⟩),
  ("DIRECT LEVEL", ⟨[0, 8], [0, 100], 1, []⟩)]

def patchMstDelay : List (String × Param) := [
  ("SW", ⟨[0, 0], [0, 1], 1, numbered 0 onOff⟩),
  ("TYPE", ⟨[0, 1], [0, 19], 1, numbered 0 [
     "MONO", "PAN", "STEREO1", "STEREO2", "ANALOG", "ANALOG ST", "TAPE", "REVERSE", "SHIMMER",
     "DUAL", "WARP", "TWIST", "SPACE ECHO", "TAPE ECHO PX", "BIN DRUM ECHO", "WARM", "GLITCH",
     "SDE-3000", "DD-20 STANDARD", "DD-20 ANALOG"]⟩),
  ("TIME", ⟨[0, 2], [1, 4018], 4, numbered 4001 noteTimes⟩),
  ("FEEDBACK", ⟨[0, 6], [0, 100], 1, []⟩),
  ("HIGH CUT", ⟨[0, 7], [0, 31], 1, numbered 0 highCuts⟩),
  ("EFFECT LEVEL", ⟨[0, 8], [0, 120], 1, []⟩),
  ("MOD RATE", ⟨[0, 9], [0, 100], 1, []⟩),
  ("MOD DEPTH", ⟨[0, 10], [0, 100], 1, []⟩),
  ("DUCK SENS", ⟨[0, 11], [0, 100], 1, []⟩),
  ("DUCK PRE DEPTH", ⟨[0, 12], [0, 100], 1, []⟩),
  ("DUCK POST DEPTH", ⟨[0, 13], [0, 100], 1, []⟩),
  ("DIRECT LEVEL", ⟨[0, 14], [0, 100], 1, []⟩),
  ("PITCH", ⟨[0, 15], [8, 56], 1, numbered 8 ["-24 - 24"]⟩),
  ("PITCH BAL", ⟨[0, 16], [0, 100], 1, []⟩),
  ("PITCH FEEDBACK", ⟨[0, 17], [0, 100], 1, []⟩),
  ("DUAL:MODE", ⟨[0, 18], [0, 2], 1, numbered 0 ["SERIES", "PARALLEL", "L/R"]⟩),
  ("D1 TYPE", ⟨[0, 19], [0, 3], 1, numbered 0 dualDelayTypes⟩),
  ("D1 TIME", ⟨[0, 20], [1, 2018], 4, numbered 2001 noteTimes⟩),
  ("D1 FEEDBACK", ⟨[0, 24], [0, 100], 1, []⟩),
  ("D1 HIGH CUT", ⟨[0, 25], [0, 31], 1, numbered 0 highCuts⟩),
  ("D1 EFFECT LEVEL", ⟨[0, 26], [0, 120], 1, []⟩),
  ("D2 TYPE", ⟨[0, 27], [0, 3], 1, numbered 0 dualDelayTypes⟩),
  ("D2 TIME", ⟨[0, 28], [1, 2018], 4, numbered 2001 noteTimes⟩),
  ("D2 FEEDBACK", ⟨[0, 32], [0, 100], 1, []⟩),
  ("D2 HIGH CUT", ⟨[0, 33], [0, 31], 1, numbered 0 highCuts⟩),
  ("D2 EFFECT LEVEL", ⟨[0, 34], [0, 120], 1, []⟩),
  ("TWIST:MODE", ⟨[0, 35], [0, 1], 1, numbered 0 ["RISE->FALL", "RISE->FADE"]⟩),
  ("TRIGGER", ⟨[0, 36], [0, 1], 1, numbered 0 onOff⟩),
  ("RISE TIME", ⟨[0, 37], [0, 100], 1, []⟩),
  ("FALL TIME", ⟨[0, 38], [0, 100], 1, []⟩),
  ("LEVEL", ⟨[0, 39], [0, 100], 1, []⟩),
  ("STAGE", ⟨[0, 40], [0, 2], 1, numbered 0 ["4096", "4096x2", "4096x4"]⟩),
  ("HEAD", ⟨[0, 41], [0, 4], 1, numbered 0 ["1", "1+2", "1+3", "2+3", "1+2+3"]⟩),
  ("FADE TIME", ⟨[0, 42], [0, 100], 1, []⟩),
  ("TAP TIME", ⟨[0, 43], [0, 100], 1, numbered 0 ["[%]"]⟩),
  ("WOW & FLUTTER", ⟨[0, 44], [0, 100], 1, []⟩),
  ("DRUM ECHO:HEAD", ⟨[0, 45], [0, 11], 1, numbered 0 [
     "1", "2", "3", "4", "1+2", "2+3", "3+4", "1+3", "2+4", "1+2+3", "2+3+4", "1+2+3+4"]⟩),
  ("SELECTOR", ⟨[0, 46], [0, 2], 1, numbered 0 ["ECHO", "REPEAT", "SWELL"]⟩),
  ("AUTO TRIGGER", ⟨[0, 47], [0, 1], 1, numbered 0 onOff⟩),
  ("DUTY", ⟨[0, 48], [0, 100], 1, []⟩),
  ("TONE", ⟨[0, 49], [0, 100], 1, []⟩)]

def patchChorus : List (String × Param) := [
  ("SW", ⟨[0, 0], [0, 1], 1, numbered 0 onOff⟩),
  ("TYPE", ⟨[0, 1], [0, 3], 1, numbered 0 ["MONO", "STEREO 1", "STEREO 2", "DUAL"]⟩),
  ("RATE", ⟨[0, 2], [0, 118], 1, numbered 0 rates⟩),
  ("DEPTH", ⟨[0, 3], [0, 100], 1, []⟩),
  ("PRE-DELAY", ⟨[0, 4], [0, 80], 1, numbered 0 ["0.0ms", "0.5ms - 40.0ms"]⟩),
  ("EFFECT LEVEL", ⟨[0, 5], [0, 100], 1, []⟩),
  ("WAVEFORM", ⟨[0, 6], [0, 1], 1, numbered 0 waveforms⟩),
  ("LOW CUT", ⟨[0, 7], [0, 31], 1, numbered 0 lowCuts⟩),
  ("HIGH CUT", ⟨[0, 8], [0, 31], 1, numbered 0 highCuts⟩),
  ("RATE 1", ⟨[0, 9], [0, 118], 1, numbered 0 rates⟩),
  ("DEPTH 1", ⟨[0, 10], [0, 100], 1, []⟩),
  ("PRE-DELAY 1", ⟨[0, 11], [0, 80], 1, numbered 0 ["0.0ms", "0.5ms - 40.0ms"]⟩),
  ("EFFECT LEVEL 1", ⟨[0, 12], [0, 100], 1, []⟩),
  ("WAVEFORM 1", ⟨[0, 13], [0, 1], 1, numbered 0 waveforms⟩),
  ("LOW CUT 1", ⟨[0, 14], [0, 31], 1, numbered 0 lowCuts⟩),
  ("HIGH CUT 1", ⟨[0, 15], [0, 31], 1, numbered 0 highCuts⟩),
  ("RATE 2", ⟨[0, 16], [0, 118], 1, numbered 0 rates⟩),
  ("DEPTH 2", ⟨[0, 17], [0, 100], 1, []⟩),
  ("PRE-DELAY 2", ⟨[0, 18], [0, 80], 1, numbered 0 ["0.0ms", "0.5ms - 40.0ms"]⟩),
  ("EFFECT LEVEL 2", ⟨[0, 19], [0, 100], 1, []⟩),
  ("WAVEFORM 2", ⟨[0, 20], [0, 1], 1, numbered 0 waveforms⟩),
  ("LOW CUT 2", ⟨[0, 21], [0, 31], 1, numbered 0 lowCuts⟩),
  ("HIGH CUT 2", ⟨[0, 22], [0, 31], 1, numbered 0 highCuts⟩),
  ("DIRECT LEVEL", ⟨[0, 23], [0, 100], 1, []⟩),
  ("OUTPUT MODE", ⟨[0, 24], [0, 1], 1, numbered 0 ["MONO", "STEREO"]⟩)]

def patchFx : List (String × Param) := [
  ("SW", ⟨[0, 0], [0, 1], 1, numbered 0 onOff⟩),
  ("TYPE", ⟨[0, 1], [0, 33], 1, numbered 0 fxTypeLabels⟩)]

def patchPedalFx : List (String × Param) := [
  ("SW", ⟨[0, 0], [0, 1], 1, numbered 0 onOff⟩),
  ("TYPE", ⟨[0, 1], [0, 1], 1, numbered 0 ["PEDAL BEND", "WAH"]⟩),
  ("PITCH MAX", ⟨[0, 2], [8, 56], 1, numbered 8 ["-24 - 24"]⟩),
  ("EFFECT LEVEL", ⟨[0, 3], [0, 100], 1, []⟩),
  ("DIRECT MIX", ⟨[0, 4], [0, 100], 1, []⟩),
  ("WAH TYPE", ⟨[0, 5], [0, 6], 1, numbered 0 [
     "CRY WAH", "VO WAH", "FAT WAH", "LIGHT WAH", "7STRING WAH", "RESO WAH", "BASS WAH"]⟩),
  ("PEDAL MIN", ⟨[0, 6], [0, 1000], 4, []⟩),
  ("PEDAL MAX", ⟨[0, 10], [0, 1000], 4, []⟩),
  ("WAH:PEDAL POSITION", ⟨[0, 14], [0, 1000], 4, []⟩),
  ("PEDAL BEND:PEDAL POSITION", ⟨[0, 18], [0, 1000], 4, []⟩),
  ("PITCH MIN", ⟨[0, 22], [8, 56], 1, numbered 8 ["-24 - 24"]⟩)]

def patchReverb : List (String × Param) := [
  ("SW", ⟨[0, 0], [0, 1], 1, numbered 0 onOff⟩),
  ("TYPE", ⟨[0, 1], [0, 9], 1, numbered 0 [
     "HALL1", "HALL2", "PLATE", "ROOM1", "ROOM2", "AMBIENCE", "SPRING", "SHIMMER", "DUAL",
     "TERA ECHO"]⟩),
  ("DIRECT LEVEL", ⟨[0, 2], [0, 100], 1, []⟩),
  ("LOW DAMP", ⟨[0, 3], [14, 114], 1, numbered 14 signed50⟩),
  ("HIGH DAMP", ⟨[0, 4], [14, 114], 1, numbered 14 signed50⟩),
  ("MOD RATE", ⟨[0, 5], [0, 100], 1, []⟩),
  ("MOD DEPTH", ⟨[0, 6], [0, 100], 1, []⟩),
  ("DUCK SENS", ⟨[0, 7], [0, 100], 1, []⟩),
  ("DUCK PRE DEPTH", ⟨[0, 8], [0, 100], 1, []⟩),
  ("DUCK POST DEPTH", ⟨[0, 9], [0, 100], 1, []⟩),
  ("TIME", ⟨[0, 10], [1, 100], 1, numbered 1 reverbTimes⟩),
  ("TONE", ⟨[0, 11], [14, 114], 1, numbered 14 signed50⟩),
  ("EFFECT LEVEL", ⟨[0, 12], [0, 100], 1, []⟩),
  ("DENSITY", ⟨[0, 13], [1, 10], 1, []⟩),
  ("PRE-DELAY", ⟨[0, 14], [0, 200], 2, []⟩),
  ("LOW CUT", ⟨[0, 16], [0, 31], 1, numbered 0 lowCuts⟩),
  ("HIGH CUT", ⟨[0, 17], [0, 31], 1, numbered 0 highCuts⟩),
  ("PITCH 1", ⟨[0, 18], [8, 56], 1, numbered 8 ["-24 - 24"]⟩),
  ("LEVEL 1", ⟨[0, 19], [0, 100], 1, []⟩),
  ("TYPE 1", ⟨[0, 20], [0, 2], 1, numbered 0 dualReverbTypes⟩),
  ("TIME 1", ⟨[0, 21], [1, 100], 1, numbered 1 reverbTimes⟩),
  ("TONE 1", ⟨[0, 22], [14, 114], 1, numbered 14 signed50⟩),
  ("EFFECT LEVEL 1", ⟨[0, 23], [0, 100], 1, []⟩),
  ("DENSITY 1", ⟨[0, 24], [1, 10], 1, []⟩),
  ("PRE-DELAY 1", ⟨[0, 25], [0, 200], 2, []⟩),
  ("LOW CUT 1", ⟨[0, 27], [0, 31], 1, numbered 0 lowCuts⟩),
  ("HIGH CUT 1", ⟨[0, 28], [0, 31], 1, numbered 0 highCuts⟩),
  ("PITCH 2", ⟨[0, 29], [8, 56], 1, numbered 8 ["-24 - 24"]⟩),
  ("LEVEL 2", ⟨[0, 30], [0, 100], 1, []⟩),
  ("TYPE 2", ⟨[0, 31], [0, 2], 1, numbered 0 dualReverbTypes⟩),
  ("TIME 2", ⟨[0, 32], [1, 100], 1, numbered 1 reverbTimes⟩),
  ("TONE 2", ⟨[0, 33], [14, 114], 1, numbered 14 signed50⟩),
  ("EFFECT LEVEL 2", ⟨[0, 34], [0, 100], 1, []⟩),
  ("DENSITY 2", ⟨[0, 35], [1, 10], 1, []⟩),
  ("PRE-DELAY 2", ⟨[0, 36], [0, 200], 2, []⟩),
  ("LOW CUT 2", ⟨[0, 38], [0, 31], 1, numbered 0 lowCuts⟩),
  ("HIGH CUT 2", ⟨[0, 39], [0, 31], 1, numbered 0 highCuts⟩),
  ("MODE", ⟨[0, 40], [0, 2], 1, numbered 0 ["MONO", "STEREO1", "STEREO2"]⟩),
  ("SPREAD TIME", ⟨[0, 41], [0, 100], 1, []⟩),
  ("FEEDBACK", ⟨[0, 42], [0, 100], 1, []⟩),
  ("TRIGGER", ⟨[0, 43], [0, 1], 1, numbered 0 onOff⟩)]

end Pygt1000.Specs
