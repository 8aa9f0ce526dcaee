import ChuckLight.Firmware.UdpController

/-!
# User events and the Konami codes

The results of `read_direction` and `read_button`, and the two codes that
`konami.c` recognises in them.  Both codes have eight directions and three
buttons; from the last direction on the events are kept from the server.
-/

namespace ChuckLight.Firmware

/-! ## Events -/

/-- The results of `read_direction`. -/
inductive Direction where
  | center
  | up
  | down
  | left
  | right
  deriving DecidableEq, Repr

def Direction.code : Direction → UInt8
  | .center => 0x00
  | .up => 0x11
  | .down => 0x12
  | .left => 0x13
  | .right => 0x14

/-- The results of `read_button`. -/
inductive Button where
  | none
  | ps2
  | ps2Long
  | b1
  | b2
  | b12
  deriving DecidableEq, Repr

def Button.code : Button → UInt8
  | .none => 0x00
  | .ps2 => 0x01
  | .ps2Long => 0x41
  | .b1 => 0x02
  | .b2 => 0x03
  | .b12 => 0x04

def KONAMI_COMPLETE : UInt8 := 0x31
def REV_KONAMI_COMPLETE : UInt8 := 0x32
def KONAMI_SEMICOMPLETE : UInt8 := 0x33
def KONAMI_TIMEOUT : UInt32 := 300000

/-! ## Codes -/

/-- A key of a code. -/
inductive KonamiKey where
  | direction (d : Direction)
  | button (b : Button)

def KonamiKey.pressed (direction button : UInt8) : KonamiKey → Bool
  | .direction d => direction == d.code
  | .button b => button == b.code

def konamiCode : List KonamiKey :=
  [.direction .up, .direction .up, .direction .down, .direction .down,
    .direction .left, .direction .right, .direction .left, .direction .right,
    .button .b2, .button .b1, .button .ps2]

def reverseKonamiCode : List KonamiKey :=
  [.direction .down, .direction .down, .direction .up, .direction .up,
    .direction .right, .direction .left, .direction .right, .direction .left,
    .button .ps2, .button .b1, .button .b2]

structure Konami where
  konamiState : UInt8
  reverseKonamiState : UInt8
  konamiTickCount : UInt32
  deriving DecidableEq

namespace Konami

def clearKonami : Konami := ⟨0, 0, 0⟩

def konamiTick (k : Konami) : Konami :=
  if k.konamiTickCount = 0 then k
  else if k.konamiTickCount > KONAMI_TIMEOUT then clearKonami
  else { k with konamiTickCount := k.konamiTickCount + 1 }

/-- The events are the next key of a code of which `state` keys are in.  A code
begins only when no key of the other one is in. -/
def continues (code : List KonamiKey) (state other direction button : UInt8) :
    Bool :=
  (state != 0 || other == 0) &&
    (code[state.toNat]?).any fun key => key.pressed direction button

/-- The result for a key that is not the last one. -/
def progress (state : UInt8) : UInt8 :=
  if state < 7 then 0 else KONAMI_SEMICOMPLETE

def checkKonami (direction button : UInt8) (k : Konami) : UInt8 × Konami :=
  if direction = 0 ∧ button = 0 then (0, k)
  else if continues konamiCode k.konamiState k.reverseKonamiState direction
      button then
    if k.konamiState = 10 then (KONAMI_COMPLETE, clearKonami)
    else
      (progress k.konamiState,
        { k with konamiState := k.konamiState + 1, konamiTickCount := 1 })
  else if continues reverseKonamiCode k.reverseKonamiState k.konamiState
      direction button then
    if k.reverseKonamiState = 10 then (REV_KONAMI_COMPLETE, clearKonami)
    else
      (progress k.reverseKonamiState,
        { k with
          reverseKonamiState := k.reverseKonamiState + 1
          konamiTickCount := 1 })
  else (0, clearKonami)

/-- The results of `check_konami`. -/
theorem checkKonami_cases (direction button : UInt8) (k : Konami) :
    (checkKonami direction button k).1 = 0 ∨
      (checkKonami direction button k).1 = KONAMI_SEMICOMPLETE ∨
      (checkKonami direction button k).1 = KONAMI_COMPLETE ∨
      (checkKonami direction button k).1 = REV_KONAMI_COMPLETE := by
  have hprogress : ∀ state, progress state = 0 ∨
      progress state = KONAMI_SEMICOMPLETE := by
    intro state
    unfold progress
    split_ifs
    · exact .inl rfl
    · exact .inr rfl
  unfold checkKonami
  split_ifs
  · exact .inl rfl
  · exact .inr (.inr (.inl rfl))
  · rcases hprogress k.konamiState with h | h
    · exact .inl h
    · exact .inr (.inl h)
  · exact .inr (.inr (.inr rfl))
  · rcases hprogress k.reverseKonamiState with h | h
    · exact .inl h
    · exact .inr (.inl h)
  · exact .inl rfl

theorem checkKonami_zero (k : Konami) : checkKonami 0 0 k = (0, k) :=
  if_pos ⟨rfl, rfl⟩

end Konami

end ChuckLight.Firmware
