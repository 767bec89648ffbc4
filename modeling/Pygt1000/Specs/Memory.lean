import Pygt1000.Specs.Blocks
import Pygt1000.Specs.Effects
import Pygt1000.Specs.Common
import Pygt1000.Specs.System

/-!
# Sections and blocks, and all tables by file name
-/

namespace Pygt1000.Specs

def baseAddresses : List (String × Ref) := [
  ("common", ⟨[0, 0, 0, 0], "SystemCommon"⟩),
  ("control", ⟨[0, 0, 112, 0], "SystemControl2"⟩),
  ("midi", ⟨[0, 0, 48, 0], "SystemMidi"⟩),
  ("inout", ⟨[0, 0, 64, 0], "SystemInOut"⟩),
  ("efct", ⟨[0, 32, 1, 0], "SystemEfct"⟩),
  ("pitch", ⟨[0, 0, 96, 0], "SystemPitch"⟩),
  ("inputSetting 1", ⟨[0, 1, 0, 0], "SystemInputSetting"⟩),
  ("inputSetting 2", ⟨[0, 1, 1, 0], "SystemInputSetting"⟩),
  ("inputSetting 3", ⟨[0, 1, 2, 0], "SystemInputSetting"⟩),
  ("inputSetting 4", ⟨[0, 1, 3, 0], "SystemInputSetting"⟩),
  ("inputSetting 5", ⟨[0, 1, 4, 0], "SystemInputSetting"⟩),
  ("inputSetting 6", ⟨[0, 1, 5, 0], "SystemInputSetting"⟩),
  ("inputSetting 7", ⟨[0, 1, 6, 0], "SystemInputSetting"⟩),
  ("inputSetting 8", ⟨[0, 1, 7, 0], "SystemInputSetting"⟩),
  ("inputSetting 9", ⟨[0, 1, 8, 0], "SystemInputSetting"⟩),
  ("inputSetting 10", ⟨[0, 1, 9, 0], "SystemInputSetting"⟩),
  ("bank1", ⟨[0, 16, 0, 0], "PcmapPc"⟩),
  ("bank2", ⟨[0, 16, 4, 0], "PcmapPc"⟩),
  ("bank3", ⟨[0, 16, 8, 0], "PcmapPc"⟩),
  ("bank4", ⟨[0, 16, 12, 0], "PcmapPc"⟩),
  ("patch (temporary patch)", ⟨[16, 0, 0, 0], "Patch"⟩),
  ("patch2 (temporary patch)", ⟨[16, 1, 0, 0], "Patch2"⟩),
  ("patch3 (temporary patch)", ⟨[16, 2, 0, 0], "Patch3"⟩),
  ("patch 1 (user patch)", ⟨[32, 0, 0, 0], "Patch"⟩),
  ("patch 2 (user patch)", ⟨[32, 1, 0, 0], "Patch"⟩),
  ("patch 250 (user patch)", ⟨[33, 121, 0, 0], "Patch"⟩),
  ("patch2 1 (user patch)", ⟨[33, 122, 0, 0], "Patch2"⟩),
  ("patch2 2 (user patch)", ⟨[33, 123, 0, 0], "Patch2"⟩),
  ("patch2 250(user patch)", ⟨[35, 115, 0, 0], "Patch2"⟩),
  ("patch3 1 (user patch)", ⟨[35, 116, 0, 0], "Patch3"⟩),
  ("patch3 2 (user patch)", ⟨[35, 117, 0, 0], "Patch3"⟩),
  ("patch3 250(user patch)", ⟨[37, 109, 0, 0], "Patch3"⟩),
  ("patch (PEDALBOARD)", ⟨[40, 0, 0, 0], "Patch"⟩),
  ("patch2 (PEDALBOARD)", ⟨[40, 1, 0, 0], "Patch2"⟩),
  ("patch3 (PEDALBOARD)", ⟨[40, 2, 0, 0], "Patch3"⟩),
  ("patch 1 (StompBox)", ⟨[48, 0, 0, 0], "Patch"⟩),
  ("patch 2 (StompBox)", ⟨[48, 1, 0, 0], "Patch"⟩),
  ("patch 10 (StompBox)", ⟨[48, 9, 0, 0], "Patch"⟩),
  ("common 1 (StompBox)", ⟨[48, 10, 0, 0], "StompBoxCommon"⟩),
  ("common 2 (StompBox)", ⟨[48, 11, 0, 0], "StompBoxCommon"⟩),
  ("common 10 (StompBox)", ⟨[48, 19, 0, 0], "StompBoxCommon"⟩),
  ("common2 1 (StompBox)", ⟨[48, 20, 0, 0], "StompBoxCommon2"⟩),
  ("common2 2 (StompBox)", ⟨[48, 21, 0, 0], "StompBoxCommon2"⟩),
  ("common2 10(StompBox)", ⟨[48, 29, 0, 0], "StompBoxCommon2"⟩),
  ("patch2 1 (StompBox)", ⟨[48, 30, 0, 0], "Patch2"⟩),
  ("patch2 2 (StompBox)", ⟨[48, 31, 0, 0], "Patch2"⟩),
  ("patch2 10 (StompBox)", ⟨[48, 39, 0, 0], "Patch2"⟩),
  ("common3 1 (StompBox)", ⟨[48, 40, 0, 0], "StompBoxCommon3"⟩),
  ("common3 2 (StompBox)", ⟨[48, 41, 0, 0], "StompBoxCommon3"⟩),
  ("common3 10(StompBox)", ⟨[48, 49, 0, 0], "StompBoxCommon3"⟩),
  ("patch3 1 (StompBox)", ⟨[48, 50, 0, 0], "Patch3"⟩),
  ("patch3 2 (StompBox)", ⟨[48, 51, 0, 0], "Patch3"⟩),
  ("patch3 10 (StompBox)", ⟨[48, 59, 0, 0], "Patch3"⟩)]

def patch : List (String × Ref) := [
  ("common", ⟨[0, 0, 0], "PatchCommon"⟩),
  ("stompBox", ⟨[0, 1, 0], "PatchStompBox"⟩),
  ("led", ⟨[0, 2, 0], "PatchLed"⟩),
  ("assign 1", ⟨[0, 3, 0], "Assign"⟩),
  ("assign 2", ⟨[0, 3, 64], "Assign"⟩),
  ("assign 16", ⟨[0, 10, 64], "Assign"⟩),
  ("efct", ⟨[0, 16, 0], "PatchEfct"⟩),
  ("comp", ⟨[0, 18, 0], "PatchComp"⟩),
  ("dist1", ⟨[0, 19, 0], "PatchDist"⟩),
  ("dist2", ⟨[0, 20, 0], "PatchDist"⟩),
  ("preampA", ⟨[0, 21, 0], "PatchPreamp"⟩),
  ("preampB", ⟨[0, 22, 0], "PatchPreamp"⟩),
  ("ns1", ⟨[0, 23, 0], "PatchNs"⟩),
  ("ns2", ⟨[0, 24, 0], "PatchNs"⟩),
  ("eq1", ⟨[0, 25, 0], "PatchEq"⟩),
  ("eq2", ⟨[0, 26, 0], "PatchEq"⟩),
  ("eq3", ⟨[0, 27, 0], "PatchEq"⟩),
  ("eq4", ⟨[0, 28, 0], "PatchEq"⟩),
  ("delay1", ⟨[0, 29, 0], "PatchDelay"⟩),
  ("delay2", ⟨[0, 30, 0], "PatchDelay"⟩),
  ("delay3", ⟨[0, 31, 0], "PatchDelay"⟩),
  ("delay4", ⟨[0, 32, 0], "PatchDelay"⟩),
  ("mstDelay", ⟨[0, 33, 0], "PatchMstDelay"⟩),
  ("chorus", ⟨[0, 34, 0], "PatchChorus"⟩),
  ("fx1", ⟨[0, 35, 0], "PatchFx"⟩),
  ("fx1AGSim", ⟨[0, 36, 0], "PatchFxAGSim"⟩),
  ("fx1AcReso", ⟨[0, 37, 0], "PatchFxAcReso"⟩),
  ("fx1AWah", ⟨[0, 38, 0], "PatchFxAWah"⟩),
  ("fx1Chorus", ⟨[0, 39, 0], "PatchFxChorus"⟩),
  ("fx1CVibe", ⟨[0, 40, 0], "PatchFxCVibe"⟩),
  ("fx1Comp", ⟨[0, 41, 0], "PatchFxComp"⟩),
  ("fx1Defretter", ⟨[0, 42, 0], "PatchFxDefretter"⟩),
  ("fx1Feedbacker", ⟨[0, 43, 0], "PatchFxFeedbacker"⟩),
  ("fx1Flanger", ⟨[0, 44, 0], "PatchFxFlanger"⟩),
  ("fx1Harmonist", ⟨[0, 45, 0], "PatchFxHarmonist"⟩),
  ("fx1Humanizer", ⟨[0, 46, 0], "PatchFxHumanizer"⟩),
  ("fx1Octave", ⟨[0, 47, 0], "PatchFxOctave"⟩),
  ("fx1Overtone", ⟨[0, 48, 0], "PatchFxOvertone"⟩),
  ("fx1Pan", ⟨[0, 49, 0], "PatchFxPan"⟩),
  ("fx1Phaser", ⟨[0, 50, 0], "PatchFxPhaser"⟩),
  ("fx1PitchShift", ⟨[0, 51, 0], "PatchFxPitchShift"⟩),
  ("fx1RingMod", ⟨[0, 52, 0], "PatchFxRingMod"⟩),
  ("fx1Rotary", ⟨[0, 53, 0], "PatchFxRotary"⟩),
  ("fx1SitarSim", ⟨[0, 54, 0], "PatchFxSitarSim"⟩),
  ("fx1Slicer", ⟨[0, 55, 0], "PatchFxSlicer"⟩),
  ("fx1SlowGear", ⟨[0, 56, 0], "PatchFxSlowGear"⟩),
  ("fx1SoundHold", ⟨[0, 57, 0], "PatchFxSoundHold"⟩),
  ("fx1SBend", ⟨[0, 58, 0], "PatchFxSBend"⟩),
  ("fx1Tremolo", ⟨[0, 59, 0], "PatchFxTremolo"⟩),
  ("fx1TWah", ⟨[0, 60, 0], "PatchFxTWah"⟩),
  ("fx1Vibrato", ⟨[0, 61, 0], "PatchFxVibrato"⟩),
  ("fx2", ⟨[0, 62, 0], "PatchFx"⟩),
  ("fx2AGSim", ⟨[0, 63, 0], "PatchFxAGSim"⟩),
  ("fx2AcReso", ⟨[0, 64, 0], "PatchFxAcReso"⟩),
  ("fx2AWah", ⟨[0, 65, 0], "PatchFxAWah"⟩),
  ("fx2Chorus", ⟨[0, 66, 0], "PatchFxChorus"⟩),
  ("fx2CVibe", ⟨[0, 67, 0], "PatchFxCVibe"⟩),
  ("fx2Comp", ⟨[0, 68, 0], "PatchFxComp"⟩),
  ("fx2Defretter", ⟨[0, 69, 0], "PatchFxDefretter"⟩),
  ("fx2Feedbacker", ⟨[0, 70, 0], "PatchFxFeedbacker"⟩),
  ("fx2Flanger", ⟨[0, 71, 0], "PatchFxFlanger"⟩),
  ("fx2Harmonist", ⟨[0, 72, 0], "PatchFxHarmonist"⟩),
  ("fx2Humanizer", ⟨[0, 73, 0], "PatchFxHumanizer"⟩),
  ("fx2Octave", ⟨[0, 74, 0], "PatchFxOctave"⟩),
  ("fx2Overtone", ⟨[0, 75, 0], "PatchFxOvertone"⟩),
  ("fx2Pan", ⟨[0, 76, 0], "PatchFxPan"⟩),
  ("fx2Phaser", ⟨[0, 77, 0], "PatchFxPhaser"⟩),
  ("fx2PitchShift", ⟨[0, 78, 0], "PatchFxPitchShift"⟩),
  ("fx2RingMod", ⟨[0, 79, 0], "PatchFxRingMod"⟩),
  ("fx2Rotary", ⟨[0, 80, 0], "PatchFxRotary"⟩),
  ("fx2SitarSim", ⟨[0, 81, 0], "PatchFxSitarSim"⟩),
  ("fx2Slicer", ⟨[0, 82, 0], "PatchFxSlicer"⟩),
  ("fx2SlowGear", ⟨[0, 83, 0], "PatchFxSlowGear"⟩),
  ("fx2SoundHold", ⟨[0, 84, 0], "PatchFxSoundHold"⟩),
  ("fx2SBend", ⟨[0, 85, 0], "PatchFxSBend"⟩),
  ("fx2Tremolo", ⟨[0, 86, 0], "PatchFxTremolo"⟩),
  ("fx2TWah", ⟨[0, 87, 0], "PatchFxTWah"⟩),
  ("fx2Vibrato", ⟨[0, 88, 0], "PatchFxVibrato"⟩),
  ("fx3", ⟨[0, 89, 0], "PatchFx"⟩),
  ("fx3AGSim", ⟨[0, 90, 0], "PatchFxAGSim"⟩),
  ("fx3AcReso", ⟨[0, 91, 0], "PatchFxAcReso"⟩),
  ("fx3AWah", ⟨[0, 92, 0], "PatchFxAWah"⟩),
  ("fx3Chorus", ⟨[0, 93, 0], "PatchFxChorus"⟩),
  ("fx3CVibe", ⟨[0, 94, 0], "PatchFxCVibe"⟩),
  ("fx3Comp", ⟨[0, 95, 0], "PatchFxComp"⟩),
  ("fx3Defretter", ⟨[0, 96, 0], "PatchFxDefretter"⟩),
  ("fx3Feedbacker", ⟨[0, 97, 0], "PatchFxFeedbacker"⟩),
  ("fx3Flanger", ⟨[0, 98, 0], "PatchFxFlanger"⟩),
  ("fx3Harmonist", ⟨[0, 99, 0], "PatchFxHarmonist"⟩),
  ("fx3Humanizer", ⟨[0, 100, 0], "PatchFxHumanizer"⟩),
  ("fx3Octave", ⟨[0, 101, 0], "PatchFxOctave"⟩),
  ("fx3Overtone", ⟨[0, 102, 0], "PatchFxOvertone"⟩),
  ("fx3Pan", ⟨[0, 103, 0], "PatchFxPan"⟩),
  ("fx3Phaser", ⟨[0, 104, 0], "PatchFxPhaser"⟩),
  ("fx3PitchShift", ⟨[0, 105, 0], "PatchFxPitchShift"⟩),
  ("fx3RingMod", ⟨[0, 106, 0], "PatchFxRingMod"⟩),
  ("fx3Rotary", ⟨[0, 107, 0], "PatchFxRotary"⟩),
  ("fx3SitarSim", ⟨[0, 108, 0], "PatchFxSitarSim"⟩),
  ("fx3Slicer", ⟨[0, 109, 0], "PatchFxSlicer"⟩),
  ("fx3SlowGear", ⟨[0, 110, 0], "PatchFxSlowGear"⟩),
  ("fx3SoundHold", ⟨[0, 111, 0], "PatchFxSoundHold"⟩),
  ("fx3SBend", ⟨[0, 112, 0], "PatchFxSBend"⟩),
  ("fx3Tremolo", ⟨[0, 113, 0], "PatchFxTremolo"⟩),
  ("fx3TWah", ⟨[0, 114, 0], "PatchFxTWah"⟩),
  ("fx3Vibrato", ⟨[0, 115, 0], "PatchFxVibrato"⟩),
  ("reverb", ⟨[0, 116, 0], "PatchReverb"⟩),
  ("pedalFx", ⟨[0, 117, 0], "PatchPedalFx"⟩)]

def patch2 : List (String × Ref) := [
  ("stompBox", ⟨[0, 0, 0], "PatchStompBox2"⟩),
  ("fx1ChorusBass", ⟨[0, 1, 0], "PatchFxChorusBass"⟩),
  ("fx1FlangerBass", ⟨[0, 2, 0], "PatchFxFlangerBass"⟩),
  ("fx2ChorusBass", ⟨[0, 3, 0], "PatchFxChorusBass"⟩),
  ("fx2FlangerBass", ⟨[0, 4, 0], "PatchFxFlangerBass"⟩),
  ("fx3ChorusBass", ⟨[0, 5, 0], "PatchFxChorusBass"⟩),
  ("fx3FlangerBass", ⟨[0, 6, 0], "PatchFxFlangerBass"⟩),
  ("efct", ⟨[0, 10, 0], "PatchEfct2"⟩)]

def patch3 : List (String × Ref) := [
  ("stompBox", ⟨[0, 0, 0], "PatchStompBox3"⟩),
  ("fx4", ⟨[0, 1, 0], "PatchFx"⟩),
  ("fx4AGSim", ⟨[0, 2, 0], "PatchFxAGSim"⟩),
  ("fx4AcReso", ⟨[0, 3, 0], "PatchFxAcReso"⟩),
  ("fx4AWah", ⟨[0, 4, 0], "PatchFxAWah"⟩),
  ("fx4Chorus", ⟨[0, 5, 0], "PatchFxChorus"⟩),
  ("fx4CVibe", ⟨[0, 6, 0], "PatchFxCVibe"⟩),
  ("fx4Comp", ⟨[0, 7, 0], "PatchFxComp"⟩),
  ("fx4Defretter", ⟨[0, 8, 0], "PatchFxDefretter"⟩),
  ("fx4Feedbacker", ⟨[0, 9, 0], "PatchFxFeedbacker"⟩),
  ("fx4Flanger", ⟨[0, 10, 0], "PatchFxFlanger"⟩),
  ("fx4Harmonist", ⟨[0, 11, 0], "PatchFxHarmonist"⟩),
  ("fx4Humanizer", ⟨[0, 12, 0], "PatchFxHumanizer"⟩),
  ("fx4Octave", ⟨[0, 13, 0], "PatchFxOctave"⟩),
  ("fx4Overtone", ⟨[0, 14, 0], "PatchFxOvertone"⟩),
  ("fx4Pan", ⟨[0, 15, 0], "PatchFxPan"⟩),
  ("fx4Phaser", ⟨[0, 16, 0], "PatchFxPhaser"⟩),
  ("fx4PitchShift", ⟨[0, 17, 0], "PatchFxPitchShift"⟩),
  ("fx4RingMod", ⟨[0, 18, 0], "PatchFxRingMod"⟩),
  ("fx4Rotary", ⟨[0, 19, 0], "PatchFxRotary"⟩),
  ("fx4SitarSim", ⟨[0, 20, 0], "PatchFxSitarSim"⟩),
  ("fx4Slicer", ⟨[0, 21, 0], "PatchFxSlicer"⟩),
  ("fx4SlowGear", ⟨[0, 22, 0], "PatchFxSlowGear"⟩),
  ("fx4SoundHold", ⟨[0, 23, 0], "PatchFxSoundHold"⟩),
  ("fx4SBend", ⟨[0, 24, 0], "PatchFxSBend"⟩),
  ("fx4Tremolo", ⟨[0, 25, 0], "PatchFxTremolo"⟩),
  ("fx4TWah", ⟨[0, 26, 0], "PatchFxTWah"⟩),
  ("fx4Vibrato", ⟨[0, 27, 0], "PatchFxVibrato"⟩),
  ("fx4ChorusBass", ⟨[0, 28, 0], "PatchFxChorusBass"⟩),
  ("fx4FlangerBass", ⟨[0, 29, 0], "PatchFxFlangerBass"⟩),
  ("fx1Dist", ⟨[0, 31, 0], "PatchFxDist"⟩),
  ("fx1MasterFx", ⟨[0, 31, 64], "PatchFxMasteringFx"⟩),
  ("fx2Dist", ⟨[0, 32, 0], "PatchFxDist"⟩),
  ("fx2MasterFx", ⟨[0, 32, 64], "PatchFxMasteringFx"⟩),
  ("fx3Dist", ⟨[0, 33, 0], "PatchFxDist"⟩),
  ("fx3MasterFx", ⟨[0, 33, 64], "PatchFxMasteringFx"⟩),
  ("fx4Dist", ⟨[0, 34, 0], "PatchFxDist"⟩),
  ("fx4MasterFx", ⟨[0, 34, 64], "PatchFxMasteringFx"⟩)]

/-- The three containers, by file name. -/
def containers : List (String × List (String × Ref)) :=
  [("Patch", patch), ("Patch2", patch2), ("Patch3", patch3)]

/-- Every table of parameters, by file name. -/
def params : List (String × List (String × Param)) :=
  [("PatchChorus", patchChorus), ("PatchCommon", patchCommon), ("PatchComp", patchComp),
   ("PatchDelay", patchDelay), ("PatchDist", patchDist), ("PatchEfct", patchEfct),
   ("PatchEq", patchEq), ("PatchFx", patchFx), ("PatchFxAGSim", patchFxAGSim),
   ("PatchFxAWah", patchFxAWah), ("PatchFxAcReso", patchFxAcReso), ("PatchFxCVibe", patchFxCVibe),
   ("PatchFxChorus", patchFxChorus), ("PatchFxChorusBass", patchFxChorusBass),
   ("PatchFxComp", patchFxComp), ("PatchFxDefretter", patchFxDefretter),
   ("PatchFxDefretterBass", patchFxDefretterBass), ("PatchFxDist", patchFxDist),
   ("PatchFxFeedbacker", patchFxFeedbacker), ("PatchFxFlanger", patchFxFlanger),
   ("PatchFxFlangerBass", patchFxFlangerBass), ("PatchFxHarmonist", patchFxHarmonist),
   ("PatchFxHumanizer", patchFxHumanizer), ("PatchFxMasteringFx", patchFxMasteringFx),
   ("PatchFxOctave", patchFxOctave), ("PatchFxOctaveBass", patchFxOctaveBass),
   ("PatchFxOvertone", patchFxOvertone), ("PatchFxPan", patchFxPan),
   ("PatchFxPhaser", patchFxPhaser), ("PatchFxPitchShift", patchFxPitchShift),
   ("PatchFxRingMod", patchFxRingMod), ("PatchFxRotary", patchFxRotary),
   ("PatchFxSBend", patchFxSBend), ("PatchFxSitarSim", patchFxSitarSim),
   ("PatchFxSlicer", patchFxSlicer), ("PatchFxSlowGear", patchFxSlowGear),
   ("PatchFxSlowGearBass", patchFxSlowGearBass), ("PatchFxSoundHold", patchFxSoundHold),
   ("PatchFxTWah", patchFxTWah), ("PatchFxTWahBass", patchFxTWahBass),
   ("PatchFxTremolo", patchFxTremolo), ("PatchFxVibrato", patchFxVibrato), ("PatchLed", patchLed),
   ("PatchMstDelay", patchMstDelay), ("PatchNs", patchNs), ("PatchPedalFx", patchPedalFx),
   ("PatchPreamp", patchPreamp), ("PatchReverb", patchReverb), ("PatchStompBox", patchStompBox),
   ("SystemCommon", systemCommon), ("SystemEfct", systemEfct), ("SystemInOut", systemInOut)]

end Pygt1000.Specs
