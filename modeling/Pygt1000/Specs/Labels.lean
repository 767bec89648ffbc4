import Mathlib.Data.List.Basic

/-!
# The label lists several parameters share (`specs/*.json`, the `values` entries)

A `values` object numbers its labels consecutively, so an entry gives the number of the first
label and the labels in order (`numbered`); most lists recur in several tables and are named
here, the others stand at their entry.
-/

namespace Pygt1000.Specs

/-- The `values` object `{l₀: first, l₁: first + 1, ..}`. -/
def numbered (first : Nat) (labels : List String) : List (String × Nat) := labels.zipIdx first

def onOff : List String := ["OFF", "ON"]

def gainsDb : List String :=
  ["-20dB", "-19dB", "-18dB", "-17dB", "-16dB", "-15dB", "-14dB", "-13dB", "-12dB", "-11dB",
   "-10dB", "-9dB", "-8dB", "-7dB", "-6dB", "-5dB", "-4dB", "-3dB", "-2dB", "-1dB", "0dB", "1dB",
   "2dB", "3dB", "4dB", "5dB", "6dB", "7dB", "8dB", "9dB", "10dB", "11dB", "12dB", "13dB", "14dB",
   "15dB", "16dB", "17dB", "18dB", "19dB", "20dB"]

def highCuts : List String :=
  ["20.0Hz", "25.0Hz", "31.5Hz", "40.0Hz", "50.0Hz", "63.0Hz", "80.0Hz", "100Hz", "125Hz",
   "160Hz", "200Hz", "250Hz", "315Hz", "400Hz", "500Hz", "630Hz", "800Hz", "1.00kHz", "1.25kHz",
   "1.60kHz", "2.00kHz", "2.50kHz", "3.15kHz", "4.00kHz", "5.00kHz", "6.30kHz", "8.00kHz",
   "10.0kHz", "12.5kHz", "16.0kHz", "20.0kHz", "FLAT"]

def rates : List String :=
  ["0 - 100", "DoubleWholeNote", "DottedWholeNote", "WholeNote", "DottedHalfNote",
   "TripletWholeNote", "HalfNote", "DottedQuarterNote", "TripletHalfNote", "QuarterNote",
   "Dotted8thNote", "TripletQuarterNote", "8thNote", "Dotted16thNote", "Triplet8thNote",
   "16thNote", "Dotted32ndNote", "Triplet16thNote", "32ndNote"]

def signed50 : List String :=
  ["-50", "-49", "-48", "-47", "-46", "-45", "-44", "-43", "-42", "-41", "-40", "-39", "-38",
   "-37", "-36", "-35", "-34", "-33", "-32", "-31", "-30", "-29", "-28", "-27", "-26", "-25",
   "-24", "-23", "-22", "-21", "-20", "-19", "-18", "-17", "-16", "-15", "-14", "-13", "-12",
   "-11", "-10", "-9", "-8", "-7", "-6", "-5", "-4", "-3", "-2", "-1", "0", "1", "2", "3", "4",
   "5", "6", "7", "8", "9", "10", "11", "12", "13", "14", "15", "16", "17", "18", "19", "20",
   "21", "22", "23", "24", "25", "26", "27", "28", "29", "30", "31", "32", "33", "34", "35", "36",
   "37", "38", "39", "40", "41", "42", "43", "44", "45", "46", "47", "48", "49", "50"]

def lowCuts : List String :=
  ["FLAT", "20.0Hz", "25.0Hz", "31.5Hz", "40.0Hz", "50.0Hz", "63.0Hz", "80.0Hz", "100Hz", "125Hz",
   "160Hz", "200Hz", "250Hz", "315Hz", "400Hz", "500Hz", "630Hz", "800Hz", "1.00kHz", "1.25kHz",
   "1.60kHz", "2.00kHz", "2.50kHz", "3.15kHz", "4.00kHz", "5.00kHz", "6.30kHz", "8.00kHz",
   "10.0kHz", "12.5kHz", "16.0kHz", "20.0kHz"]

def switchModes : List String := ["TOGGLE", "MOMENT"]

def midiValues : List String := ["OFF", "0 - 127"]

def ledOffColors : List String :=
  ["OFF", "RED", "BLUE", "LIGHT BLUE", "ORANGE", "GREEN", "YELLOW", "WHITE", "PURPLE", "PINK",
   "CYAN"]

def ledOnColors : List String :=
  ["OFF", "RED", "BLUE", "LIGHT BLUE", "ORANGE", "GREEN", "YELLOW", "WHITE", "PURPLE", "PINK",
   "CYAN", "AUTO", "AUTO RED", "AUTO BLUE", "AUTO LIGHT BLUE", "AUTO ORANGE", "AUTO GREEN",
   "AUTO YELLOW", "AUTO WHITE", "AUTO PURPLE", "AUTO PINK", "AUTO CYAN"]

def waveforms : List String := ["TRI", "SINE"]

def controlFunctions : List String :=
  ["OFF", "BANK UP", "BANK DOWN", "PATCH +1", "PATCH -1", "LEVEL +10", "LEVEL +20", "LEVEL -10",
   "LEVEL -20", "BPM TAP", "DLY1 TAP", "DLY2 TAP", "DLY3 TAP", "DLY4 TAP", "MST DLY TAP", "TUNER",
   "AMP CTL1", "AMP CTL2", "CMP", "DS1", "DS1 SOLO", "DS2", "DS2 SOLO", "AMP-1", "AMP-1 SOLO",
   "AMP-2", "AMP-2 SOLO", "NS 1", "NS 2", "EQ 1", "EQ 2", "EQ 3", "EQ 4", "DLY1", "DLY2", "DLY3",
   "DLY4", "MST DLY", "CHO", "FX1", "FX2", "FX3", "FX1 TRIGGER", "FX2 TRIGGER", "FX3 TRIGGER",
   "REV", "PFX", "DIV1 CH.SEL", "DIV2 CH.SEL", "DIV3 CH.SEL", "S/R 1", "S/R 2", "LOOPER",
   "LOOPER STOP", "LOOPER CLEAR", "METRONOME", "MIDI START", "MMC PLAY", "MDLY TRIGGER"]

def noteTimes : List String :=
  ["32ndNote", "Triplet16thNote", "Dotted32ndNote", "16thNote", "Triplet8thNote",
   "Dotted16thNote", "8thNote", "TripletQuarterNote", "Dotted8thNote", "QuarterNote",
   "TripletHalfNote", "DottedQuarterNote", "HalfNote", "TripletWholeNote", "DottedHalfNote",
   "WholeNote", "DottedWholeNote", "DoubleWholeNote"]

def dynamics : List String := ["OFF", "POLAR+", "POLAR-"]

def dividerFilters : List String := ["OFF", "LPF", "HPF"]

def cutoffFreqs : List String :=
  ["100Hz", "125Hz", "160Hz", "200Hz", "250Hz", "315Hz", "400Hz", "500Hz", "630Hz", "800Hz",
   "1.00kHz", "1.25kHz", "1.60kHz", "2.00kHz", "2.50kHz", "3.15kHz", "4.00kHz"]

def midFreqs : List String :=
  ["20.0Hz", "25.0Hz", "31.5Hz", "40.0Hz", "50.0Hz", "63.0Hz", "80.0Hz", "100Hz", "125Hz",
   "160Hz", "200Hz", "250Hz", "315Hz", "400Hz", "500Hz", "630Hz", "800Hz", "1.00kHz", "1.25kHz",
   "1.60kHz", "2.00kHz", "2.50kHz", "3.15kHz", "4.00kHz", "5.00kHz", "6.30kHz", "8.00kHz",
   "10.0kHz", "12.5kHz", "16.0kHz"]

def midQs : List String := ["0.5", "1", "2", "4", "8", "16"]

def balances : List String := ["100:0", "100:2 - 100:100 - 2:100", "0:100"]

def speakerTypes : List String :=
  ["OFF", "ORIGINAL", "1x8\"", "1x10\"", "1x12\"", "2x12\"", "4x10\"", "4x12\"", "8x12\"",
   "USER 1", "USER 2", "USER 3", "USER 4", "B1x15\"", "B1x18\"", "B2x15\"", "B4x10\"", "B8x10\"",
   "USER 5 - USER16"]

def micTypes : List String := ["DYN57", "DYN421", "CND451", "CND87", "FLAT"]

def micDistances : List String := ["SHORT", "MEDIUM", "LONG"]

def airdOutputs : List String :=
  ["LINE/PHONES", "RECORDING", "JC-120 RETURN", "JC-120 INPUT", "Blues Cube Tour410 RETURN",
   "Blues Cube Tour410 INPUT", "Blues Cube Artist212 RETURN", "Blues Cube Artist212 INPUT",
   "WAZA Amp 412 RETURN", "WAZA Amp 412 INPUT", "WAZA Amp 212 RETURN", "WAZA Amp 212 INPUT",
   "KATANA-100/212 RETURN", "KATANA-100/212 INPUT", "KATANA-100 RETURN", "KATANA-100 INPUT",
   "TUBE COMBO 212 RETURN", "TUBE COMBO 212 INPUT", "TUBE COMBO 112 RETURN",
   "TUBE COMBO 112 INPUT", "TUBE STACK 412 RETURN", "TUBE STACK 412 INPUT", "USER 1", "USER 2"]

def expFunctions : List String := ["OFF", "FOOT VOLUME", "PEDAL FX", "FV/PEDAL FX"]

def stepRates : List String :=
  ["OFF", "0 - 100", "DoubleWholeNote", "DottedWholeNote", "WholeNote", "DottedHalfNote",
   "TripletWholeNote", "HalfNote", "DottedQuarterNote", "TripletHalfNote", "QuarterNote",
   "Dotted8thNote", "TripletQuarterNote", "8thNote", "Dotted16thNote", "Triplet8thNote",
   "16thNote", "Dotted32ndNote", "Triplet16thNote", "32ndNote"]

def reverbTimes : List String :=
  ["0.1s", "0.2s", "0.3s", "0.4s", "0.5s", "0.6s", "0.7s", "0.8s", "0.9s", "1.0s", "1.1s", "1.2s",
   "1.3s", "1.4s", "1.5s", "1.6s", "1.7s", "1.8s", "1.9s", "2.0s", "2.1s", "2.2s", "2.3s", "2.4s",
   "2.5s", "2.6s", "2.7s", "2.8s", "2.9s", "3.0s", "3.1s", "3.2s", "3.3s", "3.4s", "3.5s", "3.6s",
   "3.7s", "3.8s", "3.9s", "4.0s", "4.1s", "4.2s", "4.3s", "4.4s", "4.5s", "4.6s", "4.7s", "4.8s",
   "4.9s", "5.0s", "5.1s", "5.2s", "5.3s", "5.4s", "5.5s", "5.6s", "5.7s", "5.8s", "5.9s", "6.0s",
   "6.1s", "6.2s", "6.3s", "6.4s", "6.5s", "6.6s", "6.7s", "6.8s", "6.9s", "7.0s", "7.1s", "7.2s",
   "7.3s", "7.4s", "7.5s", "7.6s", "7.7s", "7.8s", "7.9s", "8.0s", "8.1s", "8.2s", "8.3s", "8.4s",
   "8.5s", "8.6s", "8.7s", "8.8s", "8.9s", "9.0s", "9.1s", "9.2s", "9.3s", "9.4s", "9.5s", "9.6s",
   "9.7s", "9.8s", "9.9s", "10.0s"]

def tapRates : List String :=
  ["TAP:OFF", "TAP:DoubleWholeNote", "TAP:DottedWholeNote", "TAP:WholeNote", "TAP:DottedHalfNote",
   "TAP:TripletWholeNote", "TAP:HalfNote", "TAP:DottedQuarterNote", "TAP:TripletHalfNote",
   "TAP:QuarterNote", "TAP:Dotted8thNote", "TAP:TripletQuarterNote", "TAP:8thNote",
   "TAP:Dotted16thNote", "TAP:Triplet8thNote", "TAP:16thNote", "TAP:Dotted32ndNote",
   "TAP:Triplet16thNote", "TAP:32ndNote", "TAP:40 - 250"]

def compTypes : List String :=
  ["BOSS COMP", "X-COMP", "D-COMP", "ORANGE", "STEREO COMP", "X-BASS COMP"]

def compRatios : List String :=
  ["1:1", "1.2:1", "1.4:1", "1.6:1", "1.8:1", "2:1", "2.3:1", "2.6:1", "3:1", "3.5:1", "4:1",
   "5:1", "6:1", "8:1", "10:1", "12:1", "20:1", "INF:1"]

def distTypes : List String :=
  ["MID BOOST", "CLEAN BOOST", "TREBLE BOOST", "CRUNCH", "NATURAL OD", "WARM OD", "FAT DS",
   "LEAD DS", "METAL DS", "OCT FUZZ", "A-DIST", "X-OD", "X-DIST", "BLUES OD", "OD-1", "T-SCREAM",
   "TURBO OD", "DIST", "RAT", "GUV DS", "DIST+", "METAL ZONE", "'60S FUZZ", "MUFF FUZZ",
   "CENTA OD", "HM-2", "METAL CORE", "BASS OD", "BASS DS", "BASS MT", "BASS FUZZ",
   "HI BAND DRIVE", "X-BASS OD", "BASS DRV", "BASS DI", "SD-1", "DS-1"]

def sendModes : List String := ["NORMAL", "DIRECT MIX", "BRANCH OUT"]

def filterModes : List String := ["LPF", "BPF", "HPF"]

def voices : List String := ["1VOICE", "2MONO", "2STEREO"]

def harmonies : List String :=
  ["-2oct", "-14th", "-13th", "-12th", "-11th", "-10th", "-9th", "-1oct", "-7th", "-6th", "-5th",
   "-4th", "-3rd", "-2nd", "UNISON", "+2nd", "+3rd", "+4th", "+5th", "+6th", "+7th", "+1oct",
   "+9th", "+10th", "+11th", "+12th", "+13th", "+14th", "+2oct", "USER"]

def vowels : List String := ["a", "e", "i", "o", "u"]

def pitchModes : List String := ["FAST", "MEDIUM", "SLOW", "MONO"]

def dualDelayTypes : List String := ["MONO", "PAN", "ANALOG", "TAPE"]

def signed10 : List String :=
  ["-10", "-9", "-8", "-7", "-6", "-5", "-4", "-3", "-2", "-1", "0", "1", "2", "3", "4", "5", "6",
   "7", "8", "9", "10"]

def dualReverbTypes : List String := ["HALL", "PLATE", "ROOM"]

def ampControls : List String := ["LATCH", "PULSE", "INVERT"]

def metronomeOuts : List String := ["MAIN OUT", "SUB OUT", "MAIN+SUB"]

def fxTypeLabels : List String :=
  ["AC GUITAR SIM", "AC RESONANCE", "AUTO WAH", "CHORUS", "CLASSIC-VIBE", "COMPRESSOR",
   "DEFRETTER", "FEEDBACKER", "FLANGER", "HARMONIST", "HUMANIZER", "OCTAVE", "OVERTONE", "PAN",
   "PHASER", "PITCH SHIFTER", "RING MOD", "ROTARY", "SITAR SIM", "SLICER", "SLOW GEAR",
   "SOUND HOLD", "S-BEND", "TOUCH WAH", "TREMOLO", "VIBRATO", "CHORUS BASS", "DEFRETTER BASS",
   "FLANGER BASS", "OCTAVE BASS", "SLOW GEAR BASS", "TOUCH WAH BASS", "DISTORTION", "MASTERING FX"]

end Pygt1000.Specs
