import Mathlib.Data.List.Basic

/-!
# Wire constants and effect names (`constants.py`)

Bytes are natural numbers, as the source's `int`s are: nothing in the code bounds them, and
whether a byte fits the wire is a statement about it, not a type.
-/

namespace Pygt1000

/-- Roland (`constants.py:1`). -/
def manufacturerId : List Nat := [0x41]
def gt1000Family : List Nat := [0x4F, 0x03]
/-- The broadcast address, until a device id is negotiated. -/
def deviceIdBcast : Nat := 0x7F
def modelId : List Nat := [0x00, 0x00, 0x00, 0x4F]
def rq1CommandId : List Nat := [0x11]
def dt1CommandId : List Nat := [0x12]
def dt1SysexHeader : List Nat := manufacturerId ++ [deviceIdBcast] ++ modelId ++ dt1CommandId
def rq1SysexHeader : List Nat := manufacturerId ++ [deviceIdBcast] ++ modelId ++ rq1CommandId

def sysexStart : List Nat := [0xF0]
def sysexEnd : List Nat := [0xF7]

def nonRtMsg : List Nat := [0x7E]
def bcastDevId : List Nat := [0x7F]
def genInfo : List Nat := [0x06]
def identityReply : List Nat := [0x02]

def identityRequest : List Nat := [0x01]

/-- The length of a read of one byte (`constants.py:20`). -/
def oneByte : List Nat := [0x0, 0x0, 0x0, 0x1]

/-- Where the unit announces the current program (`constants.py:22-23`). -/
def programChangeOffset : List Nat := [0x7F, 0x0, 0x1, 0x0]

/-- `IDENTITY_REQUEST_MSG` (`constants.py:26-28`). -/
def identityRequestMsg : List Nat :=
  sysexStart ++ nonRtMsg ++ bcastDevId ++ genInfo ++ identityRequest ++ sysexEnd

/-- Setting editor mode and the reply that acknowledges it (`constants.py:41-44`). -/
def editorModeAddressSet2 : List Nat := [0x7F, 0x0, 0x0, 0x1]
def editorModeAddessValue2 : List Nat := [0x1]
def editorReply2 : List Nat := editorModeAddessValue2

/-- The read that checks the unit answers, and its answer (`constants.py:48-53`). -/
def editorModeAddressFetch3 : List Nat := [0x7F, 0x0, 0x0, 0x3]
def editorModeAddressLen3 : List Nat := oneByte
def editorReply3 : List Nat := [0x0]

/-- `FX_TO_TABLE_SUFFIX` (`constants.py:72-108`). The comment over the last four says why they
are there: no container table has an entry for them. -/
def fxToTableSuffix : List (String × String) := [
  ("AC GUITAR SIM", "AGSim"),
  ("AC RESONANCE", "AcReso"),
  ("AUTO WAH", "AWah"),
  ("CHORUS", "Chorus"),
  ("CLASSIC-VIBE", "CVibe"),
  ("COMPRESSOR", "Comp"),
  ("DEFRETTER", "Defretter"),
  ("FEEDBACKER", "Feedbacker"),
  ("FLANGER", "Flanger"),
  ("HARMONIST", "Harmonist"),
  ("HUMANIZER", "Humanizer"),
  ("OCTAVE", "Octave"),
  ("OVERTONE", "Overtone"),
  ("PAN", "Pan"),
  ("PHASER", "Phaser"),
  ("PITCH SHIFTER", "PitchShift"),
  ("RING MOD", "RingMod"),
  ("ROTARY", "Rotary"),
  ("SITAR SIM", "SitarSim"),
  ("SLICER", "Slicer"),
  ("SLOW GEAR", "SlowGear"),
  ("SOUND HOLD", "SoundHold"),
  ("S-BEND", "SBend"),
  ("TOUCH WAH", "TWah"),
  ("TREMOLO", "Tremolo"),
  ("VIBRATO", "Vibrato"),
  ("CHORUS BASS", "ChorusBass"),
  ("FLANGER BASS", "FlangerBass"),
  ("DISTORTION", "Dist"),
  ("MASTERING FX", "MasterFx"),
  ("DEFRETTER BASS", "PatchFxDefretterBass"),
  ("OCTAVE BASS", "PatchFxOctaveBass"),
  ("SLOW GEAR BASS", "PatchFxSlowGearBass"),
  ("TOUCH WAH BASS", "PatchFxTWahBass")]

/-- `TABLE_SUFFIX_TO_NAME`: the suffixes are distinct, so the reversed pairs are the inverse. -/
def tableSuffixToName : List (String × String) := fxToTableSuffix.map Prod.swap

end Pygt1000
