import Pygt1000.Specs.Param

/-!
# Value tables of the effects an fx block can load
-/

namespace Pygt1000.Specs

def patchFxAGSim : List (String × Param) := [
  ("BODY", ⟨[0, 0], [0, 100], 1, []⟩),
  ("LOW", ⟨[0, 1], [0, 100], 1, numbered 0 signed50⟩),
  ("HIGH", ⟨[0, 2], [0, 100], 1, numbered 0 signed50⟩),
  ("LEVEL", ⟨[0, 3], [0, 100], 1, []⟩)]

def patchFxAWah : List (String × Param) := [
  ("FILTER MODE", ⟨[0, 0], [0, 2], 1, numbered 0 filterModes⟩),
  ("RATE", ⟨[0, 1], [0, 118], 1, numbered 0 rates⟩),
  ("DEPTH", ⟨[0, 2], [0, 100], 1, []⟩),
  ("EFFECT LEVEL", ⟨[0, 3], [0, 100], 1, []⟩),
  ("FREQUENCY", ⟨[0, 4], [0, 100], 1, []⟩),
  ("RESONANCE", ⟨[0, 5], [0, 100], 1, []⟩),
  ("WAVEFORM", ⟨[0, 6], [0, 1], 1, numbered 0 waveforms⟩),
  ("DIRECT MIX", ⟨[0, 7], [0, 100], 1, []⟩)]

def patchFxAcReso : List (String × Param) := [
  ("TYPE", ⟨[0, 0], [0, 2], 1, numbered 0 ["NATURAL", "WIDE", "BRIGHT"]⟩),
  ("RESONANCE", ⟨[0, 1], [0, 100], 1, []⟩),
  ("TONE", ⟨[0, 2], [14, 114], 1, numbered 14 signed50⟩),
  ("LEVEL", ⟨[0, 3], [0, 100], 1, []⟩)]

def patchFxCVibe : List (String × Param) := [
  ("MODE", ⟨[0, 0], [0, 1], 1, numbered 0 ["CHORUS", "VIBRATO"]⟩),
  ("RATE", ⟨[0, 1], [0, 118], 1, numbered 0 rates⟩),
  ("DEPTH", ⟨[0, 2], [0, 100], 1, []⟩),
  ("EFFECT LEVEL", ⟨[0, 3], [0, 100], 1, []⟩)]

def patchFxChorus : List (String × Param) := [
  ("TYPE", ⟨[0, 0], [0, 6], 1, numbered 0 [
     "MONO", "STEREO 1", "STEREO 2", "DUAL", "PRIME", "CE-1 CHORUS", "CE-1 VIBRATO"]⟩),
  ("DIRECT LEVEL", ⟨[0, 1], [0, 100], 1, []⟩),
  ("OUTPUT MODE", ⟨[0, 2], [0, 1], 1, numbered 0 ["MONO", "STEREO"]⟩),
  ("SWEETNESS", ⟨[0, 3], [0, 100], 1, []⟩),
  ("BELL", ⟨[0, 4], [0, 100], 1, []⟩),
  ("PREAMP SW", ⟨[0, 5], [0, 1], 1, numbered 0 onOff⟩),
  ("PREAMP GAIN", ⟨[0, 6], [0, 100], 1, []⟩),
  ("PREAMP LEVEL", ⟨[0, 7], [0, 100], 1, []⟩),
  ("RATE", ⟨[0, 8], [0, 118], 1, numbered 0 rates⟩),
  ("DEPTH", ⟨[0, 9], [0, 100], 1, []⟩),
  ("PRE-DELAY", ⟨[0, 10], [0, 80], 1, numbered 0 ["0.0ms", "0.5ms - 40.0ms"]⟩),
  ("EFFECT LEVEL", ⟨[0, 11], [0, 100], 1, []⟩),
  ("WAVEFORM", ⟨[0, 12], [0, 1], 1, numbered 0 waveforms⟩),
  ("LOW CUT", ⟨[0, 13], [0, 31], 1, numbered 0 lowCuts⟩),
  ("HIGH CUT", ⟨[0, 14], [0, 31], 1, numbered 0 highCuts⟩),
  ("RATE 1", ⟨[0, 15], [0, 118], 1, numbered 0 rates⟩),
  ("DEPTH 1", ⟨[0, 16], [0, 100], 1, []⟩),
  ("PRE-DELAY 1", ⟨[0, 17], [0, 80], 1, numbered 0 ["0.0ms", "0.5ms - 40.0ms"]⟩),
  ("EFFECT LEVEL 1", ⟨[0, 18], [0, 100], 1, []⟩),
  ("WAVEFORM 1", ⟨[0, 19], [0, 1], 1, numbered 0 waveforms⟩),
  ("LOW CUT 1", ⟨[0, 20], [0, 31], 1, numbered 0 lowCuts⟩),
  ("HIGH CUT 1", ⟨[0, 21], [0, 31], 1, numbered 0 highCuts⟩),
  ("RATE 2", ⟨[0, 22], [0, 118], 1, numbered 0 rates⟩),
  ("DEPTH 2", ⟨[0, 23], [0, 100], 1, []⟩),
  ("PRE-DELAY 2", ⟨[0, 24], [0, 80], 1, numbered 0 ["0.0ms", "0.5ms - 40.0ms"]⟩),
  ("EFFECT LEVEL 2", ⟨[0, 25], [0, 100], 1, []⟩),
  ("WAVEFORM 2", ⟨[0, 26], [0, 1], 1, numbered 0 waveforms⟩),
  ("LOW CUT 2", ⟨[0, 27], [0, 31], 1, numbered 0 lowCuts⟩),
  ("HIGH CUT 2", ⟨[0, 28], [0, 31], 1, numbered 0 highCuts⟩)]

def patchFxChorusBass : List (String × Param) := [
  ("TYPE", ⟨[0, 0], [0, 2], 1, numbered 0 ["MONO", "STEREO 1", "STEREO 2"]⟩),
  ("RATE", ⟨[0, 1], [0, 118], 1, numbered 0 rates⟩),
  ("DEPTH", ⟨[0, 2], [0, 100], 1, []⟩),
  ("EFFECT LEVEL", ⟨[0, 3], [0, 100], 1, []⟩),
  ("LOW CUT", ⟨[0, 4], [0, 31], 1, numbered 0 lowCuts⟩),
  ("HIGH CUT", ⟨[0, 5], [0, 31], 1, numbered 0 highCuts⟩)]

def patchFxComp : List (String × Param) := [
  ("TYPE", ⟨[0, 0], [0, 5], 1, numbered 0 compTypes⟩),
  ("SUSTAIN", ⟨[0, 1], [0, 100], 1, []⟩),
  ("ATTACK", ⟨[0, 2], [0, 100], 1, []⟩),
  ("LEVEL", ⟨[0, 3], [0, 100], 1, []⟩),
  ("TONE", ⟨[0, 4], [14, 114], 1, numbered 14 signed50⟩),
  ("RATIO", ⟨[0, 5], [0, 17], 1, numbered 0 compRatios⟩),
  ("DIRECT MIX", ⟨[0, 6], [0, 100], 1, []⟩),
  ("THRESHOLD", ⟨[0, 7], [0, 100], 1, []⟩)]

def patchFxDefretter : List (String × Param) := [
  ("SENS", ⟨[0, 0], [0, 100], 1, []⟩),
  ("DEPTH", ⟨[0, 1], [0, 100], 1, []⟩),
  ("TONE", ⟨[0, 2], [14, 114], 1, numbered 14 signed50⟩),
  ("EFFECT LEVEL", ⟨[0, 3], [0, 100], 1, []⟩),
  ("ATTACK", ⟨[0, 4], [0, 100], 1, []⟩),
  ("RESONANCE", ⟨[0, 5], [0, 100], 1, []⟩),
  ("DIRECT MIX", ⟨[0, 6], [0, 100], 1, []⟩)]

def patchFxDefretterBass : List (String × Param) := [
  ("SENS", ⟨[0, 7], [0, 100], 1, []⟩),
  ("ATTACK", ⟨[0, 8], [0, 100], 1, []⟩),
  ("TONE", ⟨[0, 9], [14, 114], 1, numbered 14 signed50⟩),
  ("EFFECT LEVEL", ⟨[0, 10], [0, 100], 1, []⟩),
  ("DIRECT MIX", ⟨[0, 11], [0, 100], 1, []⟩)]

def patchFxDist : List (String × Param) := [
  ("TYPE", ⟨[0, 0], [0, 36], 1, numbered 0 distTypes⟩),
  ("DRIVE", ⟨[0, 1], [0, 120], 1, []⟩),
  ("TONE", ⟨[0, 2], [14, 114], 1, numbered 14 signed50⟩),
  ("LEVEL", ⟨[0, 3], [0, 100], 1, []⟩),
  ("BOTTOM", ⟨[0, 4], [14, 114], 1, numbered 14 signed50⟩),
  ("DIRECT MIX", ⟨[0, 5], [0, 100], 1, []⟩),
  ("SOLO SW", ⟨[0, 6], [0, 1], 1, numbered 0 onOff⟩),
  ("SOLO LEVEL", ⟨[0, 7], [0, 100], 1, []⟩)]

def patchFxFeedbacker : List (String × Param) := [
  ("MODE", ⟨[0, 0], [0, 1], 1, numbered 0 ["NORMAL", "OSC"]⟩),
  ("TRIGGER", ⟨[0, 1], [0, 1], 1, numbered 0 onOff⟩),
  ("DEPTH", ⟨[0, 2], [0, 100], 1, []⟩),
  ("RISE TIME", ⟨[0, 3], [0, 100], 1, []⟩),
  ("OCT RISE TIME", ⟨[0, 4], [0, 100], 1, []⟩),
  ("FEEDBACK", ⟨[0, 5], [0, 100], 1, []⟩),
  ("OCT FEEDBACK", ⟨[0, 6], [0, 100], 1, []⟩),
  ("VIB RATE", ⟨[0, 7], [0, 100], 1, []⟩),
  ("VIB DEPTH", ⟨[0, 8], [0, 100], 1, []⟩)]

def patchFxFlanger : List (String × Param) := [
  ("RATE", ⟨[0, 0], [0, 118], 1, numbered 0 rates⟩),
  ("DEPTH", ⟨[0, 1], [0, 100], 1, []⟩),
  ("RESONANCE", ⟨[0, 2], [0, 100], 1, []⟩),
  ("MANUAL", ⟨[0, 3], [0, 100], 1, []⟩),
  ("TURBO", ⟨[0, 4], [0, 1], 1, numbered 0 onOff⟩),
  ("WAVEFORM", ⟨[0, 5], [0, 1], 1, numbered 0 waveforms⟩),
  ("STEP RATE", ⟨[0, 6], [0, 119], 1, numbered 0 stepRates⟩),
  ("SEPARATION", ⟨[0, 7], [0, 12], 1, numbered 0 ["0", "15 - 180"]⟩),
  ("EFFECT LEVEL", ⟨[0, 8], [0, 100], 1, []⟩),
  ("LOW DAMP", ⟨[0, 9], [28, 128], 2, numbered 28 ["-100 - 0"]⟩),
  ("HIGH DAMP", ⟨[0, 11], [28, 128], 2, numbered 28 ["-100 - 0"]⟩),
  ("LOW CUT", ⟨[0, 13], [0, 31], 1, numbered 0 lowCuts⟩),
  ("HIGH CUT", ⟨[0, 14], [0, 31], 1, numbered 0 highCuts⟩),
  ("DIRECT MIX", ⟨[0, 15], [0, 100], 1, []⟩)]

def patchFxFlangerBass : List (String × Param) := [
  ("RATE", ⟨[0, 0], [0, 118], 1, numbered 0 rates⟩),
  ("DEPTH", ⟨[0, 1], [0, 100], 1, []⟩),
  ("RESONANCE", ⟨[0, 2], [0, 100], 1, []⟩),
  ("MANUAL", ⟨[0, 3], [0, 100], 1, []⟩),
  ("TURBO", ⟨[0, 4], [0, 1], 1, numbered 0 onOff⟩),
  ("WAVEFORM", ⟨[0, 5], [0, 1], 1, numbered 0 waveforms⟩),
  ("STEP RATE", ⟨[0, 6], [0, 119], 1, numbered 0 stepRates⟩),
  ("SEPARATION", ⟨[0, 7], [0, 12], 1, numbered 0 ["0", "15 - 180"]⟩),
  ("EFFECT LEVEL", ⟨[0, 8], [0, 100], 1, []⟩),
  ("LOW DAMP", ⟨[0, 9], [28, 128], 2, numbered 28 ["-100 - 0"]⟩),
  ("HIGH DAMP", ⟨[0, 11], [28, 128], 2, numbered 28 ["-100 - 0"]⟩),
  ("LOW CUT", ⟨[0, 13], [0, 31], 1, numbered 0 lowCuts⟩),
  ("HIGH CUT", ⟨[0, 14], [0, 31], 1, numbered 0 highCuts⟩),
  ("DIRECT MIX", ⟨[0, 15], [0, 100], 1, []⟩)]

def patchFxHarmonist : List (String × Param) := [
  ("VOICE", ⟨[0, 0], [0, 2], 1, numbered 0 voices⟩),
  ("HR1:HARMONY", ⟨[0, 1], [0, 29], 1, numbered 0 harmonies⟩),
  ("HR2:HARMONY", ⟨[0, 2], [0, 29], 1, numbered 0 harmonies⟩),
  ("HR1:LEVEL", ⟨[0, 3], [0, 100], 1, []⟩),
  ("HR1:PRE-DELAY", ⟨[0, 4], [0, 318], 4, numbered 301 noteTimes⟩),
  ("HR1:FEEDBACK", ⟨[0, 8], [0, 100], 1, []⟩),
  ("DIRECT LEVEL", ⟨[0, 9], [0, 100], 1, []⟩),
  ("HR2:LEVEL", ⟨[0, 10], [0, 100], 1, []⟩),
  ("HR2:PRE-DELAY", ⟨[0, 11], [0, 318], 4, numbered 301 noteTimes⟩),
  ("HR1:C", ⟨[0, 15], [0, 48], 1, []⟩),
  ("HR1:Db", ⟨[0, 16], [0, 48], 1, []⟩),
  ("HR1:D", ⟨[0, 17], [0, 48], 1, []⟩),
  ("HR1:Eb", ⟨[0, 18], [0, 48], 1, []⟩),
  ("HR1:E", ⟨[0, 19], [0, 48], 1, []⟩),
  ("HR1:F", ⟨[0, 20], [0, 48], 1, []⟩),
  ("HR1:F#", ⟨[0, 21], [0, 48], 1, []⟩),
  ("HR1:G", ⟨[0, 22], [0, 48], 1, []⟩),
  ("HR1:Ab", ⟨[0, 23], [0, 48], 1, []⟩),
  ("HR1:A", ⟨[0, 24], [0, 48], 1, []⟩),
  ("HR1:Bb", ⟨[0, 25], [0, 48], 1, []⟩),
  ("HR1:B", ⟨[0, 26], [0, 48], 1, []⟩),
  ("HR2:C", ⟨[0, 27], [0, 48], 1, []⟩),
  ("HR2:Db", ⟨[0, 28], [0, 48], 1, []⟩),
  ("HR2:D", ⟨[0, 29], [0, 48], 1, []⟩),
  ("HR2:Eb", ⟨[0, 30], [0, 48], 1, []⟩),
  ("HR2:E", ⟨[0, 31], [0, 48], 1, []⟩),
  ("HR2:F", ⟨[0, 32], [0, 48], 1, []⟩),
  ("HR2:F#", ⟨[0, 33], [0, 48], 1, []⟩),
  ("HR2:G", ⟨[0, 34], [0, 48], 1, []⟩),
  ("HR2:Ab", ⟨[0, 35], [0, 48], 1, []⟩),
  ("HR2:A", ⟨[0, 36], [0, 48], 1, []⟩),
  ("HR2:Bb", ⟨[0, 37], [0, 48], 1, []⟩),
  ("HR2:B", ⟨[0, 38], [0, 48], 1, []⟩)]

def patchFxHumanizer : List (String × Param) := [
  ("MODE", ⟨[0, 0], [0, 1], 1, numbered 0 ["PICKING", "AUTO"]⟩),
  ("VOWEL1", ⟨[0, 1], [0, 4], 1, numbered 0 vowels⟩),
  ("VOWEL2", ⟨[0, 2], [0, 4], 1, numbered 0 vowels⟩),
  ("SENS", ⟨[0, 3], [0, 100], 1, []⟩),
  ("RATE", ⟨[0, 4], [0, 118], 1, numbered 0 rates⟩),
  ("DEPTH", ⟨[0, 5], [0, 100], 1, []⟩),
  ("MANUAL", ⟨[0, 6], [0, 100], 1, []⟩),
  ("LEVEL", ⟨[0, 7], [0, 100], 1, []⟩)]

def patchFxMasteringFx : List (String × Param) := [
  ("TYPE", ⟨[0, 0], [0, 10], 1, numbered 0 [
     "NATURAL COMP", "MIXER COMP", "LIVE COMP", "NATURAL LIM", "HARD LIM", "SOLO", "METAL",
     "ACOUSTIC", "ROCK", "LOW BOOST", "BRIGHTEN"]⟩),
  ("DYNAMICS", ⟨[0, 1], [12, 52], 1, numbered 12 ["-20 - 20"]⟩),
  ("TONE", ⟨[0, 2], [26, 38], 1, numbered 26 ["-6 - 6"]⟩),
  ("NATURAL", ⟨[0, 3], [14, 114], 1, numbered 14 signed50⟩)]

def patchFxOctave : List (String × Param) := [
  ("TYPE", ⟨[0, 0], [0, 1], 1, numbered 0 ["MONO", "POLY"]⟩),
  ("-2OCT", ⟨[0, 1], [0, 100], 1, []⟩),
  ("-1OCT", ⟨[0, 2], [0, 100], 1, []⟩),
  ("DIRECT LEVEL", ⟨[0, 3], [0, 100], 1, []⟩),
  ("RANGE", ⟨[0, 4], [0, 100], 1, []⟩),
  ("OCTAVE LEVEL", ⟨[0, 5], [0, 100], 1, []⟩)]

def patchFxOctaveBass : List (String × Param) := [
  ("-2OCT", ⟨[0, 6], [0, 100], 1, []⟩),
  ("-1OCT", ⟨[0, 7], [0, 100], 1, []⟩),
  ("DIRECT LEVEL", ⟨[0, 8], [0, 100], 1, []⟩)]

def patchFxOvertone : List (String × Param) := [
  ("LOWER LEVEL", ⟨[0, 0], [0, 100], 1, []⟩),
  ("UPPER LEVEL", ⟨[0, 1], [0, 100], 1, []⟩),
  ("UNISON LEVEL", ⟨[0, 2], [0, 100], 1, []⟩),
  ("DIRECT LEVEL", ⟨[0, 3], [0, 100], 1, []⟩),
  ("DETUNE", ⟨[0, 4], [0, 100], 1, []⟩),
  ("OUTPUT MODE", ⟨[0, 5], [0, 1], 1, numbered 0 ["MONO", "STEREO"]⟩),
  ("LOW", ⟨[0, 6], [14, 114], 1, numbered 14 signed50⟩),
  ("HIGH", ⟨[0, 7], [14, 114], 1, numbered 14 signed50⟩)]

def patchFxPan : List (String × Param) := [
  ("RATE", ⟨[0, 0], [0, 118], 1, numbered 0 rates⟩),
  ("DEPTH", ⟨[0, 1], [0, 100], 1, []⟩),
  ("WAVEFORM", ⟨[0, 2], [0, 100], 1, []⟩),
  ("EFFECT LEVEL", ⟨[0, 3], [0, 100], 1, []⟩),
  ("DIRECT MIX", ⟨[0, 4], [0, 100], 1, []⟩)]

def patchFxPhaser : List (String × Param) := [
  ("TYPE", ⟨[0, 0], [0, 1], 1, numbered 0 ["PRIME", "SCRIPT"]⟩),
  ("STAGE", ⟨[0, 1], [0, 4], 1, numbered 0 [
     "2 STAGE", "4 STAGE", "8 STAGE", "16 STAGE", "24 STAGE"]⟩),
  ("RATE", ⟨[0, 2], [0, 118], 1, numbered 0 rates⟩),
  ("DEPTH", ⟨[0, 3], [0, 100], 1, []⟩),
  ("RESONANCE", ⟨[0, 4], [0, 100], 1, []⟩),
  ("MANUAL", ⟨[0, 5], [0, 100], 1, []⟩),
  ("WAVEFORM", ⟨[0, 6], [0, 1], 1, numbered 0 waveforms⟩),
  ("STEP RATE", ⟨[0, 7], [0, 119], 1, numbered 0 stepRates⟩),
  ("BI-PHASE", ⟨[0, 8], [0, 1], 1, numbered 0 onOff⟩),
  ("SEPARATION", ⟨[0, 9], [0, 12], 1, numbered 0 ["0", "15 - 180"]⟩),
  ("LOW DAMP", ⟨[0, 10], [28, 128], 2, numbered 28 ["-100 - 0"]⟩),
  ("HIGH DAMP", ⟨[0, 12], [28, 128], 2, numbered 28 ["-100 - 0"]⟩),
  ("LOW CUT", ⟨[0, 14], [0, 31], 1, numbered 0 lowCuts⟩),
  ("HIGH CUT", ⟨[0, 15], [0, 31], 1, numbered 0 highCuts⟩),
  ("EFFECT LEVEL", ⟨[0, 16], [0, 100], 1, []⟩),
  ("DIRECT MIX", ⟨[0, 17], [0, 100], 1, []⟩)]

def patchFxPitchShift : List (String × Param) := [
  ("VOICE", ⟨[0, 0], [0, 2], 1, numbered 0 voices⟩),
  ("PS1:PITCH", ⟨[0, 1], [8, 56], 1, numbered 8 ["-24 - 24"]⟩),
  ("PS2:PITCH", ⟨[0, 2], [8, 56], 1, numbered 8 ["-24 - 24"]⟩),
  ("DIRECT LEVEL", ⟨[0, 3], [0, 100], 1, []⟩),
  ("PS1:MODE", ⟨[0, 4], [0, 3], 1, numbered 0 pitchModes⟩),
  ("PS1:FINE", ⟨[0, 5], [14, 114], 1, numbered 14 signed50⟩),
  ("PS1:PRE-DELAY", ⟨[0, 6], [0, 318], 4, numbered 301 noteTimes⟩),
  ("PS1:LEVEL", ⟨[0, 10], [0, 100], 1, []⟩),
  ("PS1:FEEDBACK", ⟨[0, 11], [0, 100], 1, []⟩),
  ("PS2:MODE", ⟨[0, 12], [0, 3], 1, numbered 0 pitchModes⟩),
  ("PS2:FINE", ⟨[0, 13], [14, 114], 1, numbered 14 signed50⟩),
  ("PS2:PRE-DELAY", ⟨[0, 14], [0, 318], 4, numbered 301 noteTimes⟩),
  ("PS2:LEVEL", ⟨[0, 18], [0, 100], 1, []⟩)]

def patchFxRingMod : List (String × Param) := [
  ("INTELLIGENT", ⟨[0, 0], [0, 1], 1, numbered 0 onOff⟩),
  ("FREQUENCY", ⟨[0, 1], [0, 100], 1, []⟩),
  ("FREQ MOD RATE", ⟨[0, 2], [0, 118], 1, numbered 0 rates⟩),
  ("FREQ MOD DEPTH", ⟨[0, 3], [0, 100], 1, []⟩),
  ("EFFECT LEVEL", ⟨[0, 4], [0, 100], 1, []⟩),
  ("DIRECT MIX", ⟨[0, 5], [0, 100], 1, []⟩)]

def patchFxRotary : List (String × Param) := [
  ("SPEED SELECT", ⟨[0, 0], [0, 1], 1, numbered 0 ["SLOW", "FAST"]⟩),
  ("SLOW RATE", ⟨[0, 1], [0, 118], 1, numbered 0 rates⟩),
  ("FAST RATE", ⟨[0, 2], [0, 118], 1, numbered 0 rates⟩),
  ("EFFECT LEVEL", ⟨[0, 3], [0, 100], 1, []⟩),
  ("RISE TIME", ⟨[0, 4], [0, 100], 1, []⟩),
  ("FALL TIME", ⟨[0, 5], [0, 100], 1, []⟩),
  ("MIC DISTANCE", ⟨[0, 6], [0, 100], 1, []⟩),
  ("ROTOR/HORN", ⟨[0, 7], [0, 100], 1, numbered 0 balances⟩),
  ("DRIVE", ⟨[0, 8], [0, 100], 1, []⟩),
  ("DIRECT MIX", ⟨[0, 9], [0, 100], 1, []⟩)]

def patchFxSBend : List (String × Param) := [
  ("TRIGGER", ⟨[0, 0], [0, 1], 1, numbered 0 onOff⟩),
  ("PITCH", ⟨[0, 1], [0, 6], 1, numbered 0 [
     "-3OCT", "-2OCT", "-1OCT", "+1OCT", "+2OCT", "+3OCT", "+4OCT"]⟩),
  ("RISE TIME", ⟨[0, 2], [0, 100], 1, []⟩),
  ("FALL TIME", ⟨[0, 3], [0, 100], 1, []⟩)]

def patchFxSitarSim : List (String × Param) := [
  ("SENS", ⟨[0, 0], [0, 100], 1, []⟩),
  ("DEPTH", ⟨[0, 1], [0, 100], 1, []⟩),
  ("TONE", ⟨[0, 2], [14, 114], 1, numbered 14 signed50⟩),
  ("EFFECT LEVEL", ⟨[0, 3], [0, 100], 1, []⟩),
  ("RESONANCE", ⟨[0, 4], [0, 100], 1, []⟩),
  ("BUZZ", ⟨[0, 5], [0, 100], 1, []⟩),
  ("DIRECT MIX", ⟨[0, 6], [0, 100], 1, []⟩)]

def patchFxSlicer : List (String × Param) := [
  ("PATTERN", ⟨[0, 0], [0, 19], 1, numbered 0 ["P1 - P20"]⟩),
  ("RATE", ⟨[0, 1], [0, 118], 1, numbered 0 rates⟩),
  ("TRIGGER", ⟨[0, 2], [0, 1], 1, numbered 0 onOff⟩),
  ("EFFECT LEVEL", ⟨[0, 3], [0, 100], 1, []⟩),
  ("ATTACK", ⟨[0, 4], [0, 100], 1, []⟩),
  ("DUTY", ⟨[0, 5], [1, 99], 1, []⟩),
  ("DIRECT MIX", ⟨[0, 6], [0, 100], 1, []⟩)]

def patchFxSlowGear : List (String × Param) := [
  ("SENS", ⟨[0, 0], [0, 100], 1, []⟩),
  ("RISE TIME", ⟨[0, 1], [0, 100], 1, []⟩),
  ("LEVEL", ⟨[0, 2], [0, 100], 1, []⟩)]

def patchFxSlowGearBass : List (String × Param) := [
  ("SENS", ⟨[0, 3], [0, 100], 1, []⟩),
  ("RISE TIME", ⟨[0, 4], [0, 100], 1, []⟩),
  ("LEVEL", ⟨[0, 5], [0, 100], 1, []⟩)]

def patchFxSoundHold : List (String × Param) := [
  ("TRIGGER", ⟨[0, 0], [0, 1], 1, numbered 0 onOff⟩),
  ("RISE TIME", ⟨[0, 1], [0, 100], 1, []⟩),
  ("EFFECT LEVEL", ⟨[0, 2], [0, 120], 1, []⟩)]

def patchFxTWah : List (String × Param) := [
  ("FILTER MODE", ⟨[0, 0], [0, 2], 1, numbered 0 filterModes⟩),
  ("POLARITY", ⟨[0, 1], [0, 1], 1, numbered 0 ["DOWN", "UP"]⟩),
  ("SENS", ⟨[0, 2], [0, 100], 1, []⟩),
  ("FREQUENCY", ⟨[0, 3], [0, 100], 1, []⟩),
  ("RESONANCE", ⟨[0, 4], [0, 100], 1, []⟩),
  ("DECAY", ⟨[0, 5], [0, 100], 1, []⟩),
  ("EFFECT LEVEL", ⟨[0, 6], [0, 100], 1, []⟩),
  ("DIRECT MIX", ⟨[0, 7], [0, 100], 1, []⟩)]

def patchFxTWahBass : List (String × Param) := [
  ("FILTER MODE", ⟨[0, 8], [0, 1], 1, numbered 0 ["LPF", "BPF"]⟩),
  ("POLARITY", ⟨[0, 9], [0, 1], 1, numbered 0 ["DOWN", "UP"]⟩),
  ("SENS", ⟨[0, 10], [0, 100], 1, []⟩),
  ("FREQUENCY", ⟨[0, 11], [0, 100], 1, []⟩),
  ("RESONANCE", ⟨[0, 12], [0, 100], 1, []⟩),
  ("DECAY", ⟨[0, 13], [0, 100], 1, []⟩),
  ("EFFECT LEVEL", ⟨[0, 14], [0, 100], 1, []⟩),
  ("DIRECT MIX", ⟨[0, 15], [0, 100], 1, []⟩)]

def patchFxTremolo : List (String × Param) := [
  ("RATE", ⟨[0, 0], [0, 118], 1, numbered 0 rates⟩),
  ("DEPTH", ⟨[0, 1], [0, 100], 1, []⟩),
  ("WAVEFORM", ⟨[0, 2], [0, 100], 1, []⟩),
  ("EFFECT LEVEL", ⟨[0, 3], [0, 100], 1, []⟩),
  ("TRIGGER", ⟨[0, 4], [0, 1], 1, numbered 0 onOff⟩),
  ("RISE TIME", ⟨[0, 5], [0, 100], 1, []⟩),
  ("DIRECT MIX", ⟨[0, 6], [0, 100], 1, []⟩)]

def patchFxVibrato : List (String × Param) := [
  ("RATE", ⟨[0, 0], [0, 118], 1, numbered 0 rates⟩),
  ("DEPTH", ⟨[0, 1], [0, 100], 1, []⟩),
  ("COLOR", ⟨[0, 2], [0, 100], 1, []⟩),
  ("EFFECT LEVEL", ⟨[0, 3], [0, 100], 1, []⟩),
  ("TRIGGER", ⟨[0, 4], [0, 1], 1, numbered 0 onOff⟩),
  ("RISE TIME", ⟨[0, 5], [0, 100], 1, []⟩),
  ("DIRECT MIX", ⟨[0, 6], [0, 100], 1, []⟩)]

end Pygt1000.Specs
