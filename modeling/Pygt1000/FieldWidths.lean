import Pygt1000.Conversion

/-!
# Fields of several addresses

A "|# .." row opens a field at its first address, rows without a name follow, and the named row is
at the last address. The addresses have seven bits a byte, and the width is computed with eight:
it is the number of addresses as long as the high byte stays (`width_eq_iff`).
-/

namespace Pygt1000.OptionsToJson

variable {s t : State} {line mark : String} {r : Row} {e : Entry} {pre rest between post : List String}
  {res : List (String × Entry)} {n : Nat}

/-- The address `n` places after the first of a table. -/
def address (n : Nat) : List Int := [((n / 128 : Nat) : Int), ((n % 128 : Nat) : Int)]

/-- A row of a field before its last: an address and no name. -/
structure FieldRow (line : String) (a : List Int) : Prop where
  nameless : ∀ opened, readLine opened line = .ok .other
  address : hexBytes (column 1 (stripLine line)) = .ok a

/-- Such rows at one address after the other. -/
def FieldRows : List String → Nat → Prop
  | [], _ => True
  | line :: rest, n => FieldRow line (address n) ∧ FieldRows rest (n + 1)

theorem FieldRows.nameless (h : FieldRows rest n) (hmem : line ∈ rest) (opened : Bool) :
    readLine opened line = .ok .other := by
  induction rest generalizing n with
  | nil => cases hmem
  | cons first rest ih =>
    rcases List.mem_cons.1 hmem with rfl | hmem
    · exact h.1.nameless opened
    · exact ih h.2 hmem

/-- A field of `rest.length + 2` addresses from `n` on, which ends in row `r`. -/
structure Field (mark : String) (rest : List String) (n : Nat) (r : Row) : Prop where
  opens : ∀ opened, readLine opened mark = .ok (.marker (address n))
  follows : FieldRows rest (n + 1)
  ends : r.offset = address (n + rest.length + 1)
  inTable : n + rest.length + 1 < 128 * 128

theorem offsetToInt_address (hn : n < 128 * 128) :
    offsetToInt (address n) = .ok ((256 * (n / 128) + n % 128 : Nat) : Int) := by
  have hbytes : ∀ b ∈ address n, 0 ≤ b ∧ b < 256 := by
    intro b hb
    simp only [address, List.mem_cons, List.not_mem_nil, or_false] at hb
    rcases hb with rfl | rfl <;> omega
  have hvalue : BigEndian.value 256 ((address n).map Int.toNat) = 256 * (n / 128) + n % 128 := by
    simp only [address, BigEndian.value, List.map_cons, List.map_nil, List.foldl_cons, List.foldl_nil,
      Int.toNat_natCast]
    omega
  rw [offsetToInt, if_pos hbytes, hvalue]

/-- The difference of two offsets, read with eight bits a byte. -/
theorem width_eq_iff {m k : Nat} (hm : m = n + k) :
    ((256 * (m / 128) + m % 128 : Nat) : Int) - ((256 * (n / 128) + n % 128 : Nat) : Int) + 1 = k + 1 ↔
      m / 128 = n / 128 := by
  omega

/-- The marker waits for the named row. -/
theorem Field.pending (hf : Field mark rest n r) (h : (pre ++ mark :: rest).foldlM step fresh = .ok s) :
    s.pendingStart = some (address n) := by
  obtain ⟨u, -, h⟩ := Passes.append.1 h
  obtain ⟨t, ht, h⟩ := Passes.cons.1 h
  obtain rfl : t = { u with pendingStart := some (address n) } := by
    simpa [step, hf.opens] using ht.symm
  refine Passes.invariant (I := fun s => s.pendingStart = some (address n)) (fun s line t hs hmem hI => ?_) h rfl
  have hread := hf.follows.nameless hmem s.opened
  obtain rfl : s = t := by simpa [step, hread] using hs
  exact hI

theorem Field.newEntry (hf : Field mark rest n r) (he : newEntry (some (address n)) r = .ok e) :
    e.offset = address n ∧
      (e.bytes = some ((rest.length + 2 : Nat) : Int) ↔ (n + rest.length + 1) / 128 = n / 128) := by
  have hn : n < 128 * 128 := by
    have := hf.inTable
    omega
  simp only [OptionsToJson.newEntry, hf.ends, offsetToInt_address hf.inTable, offsetToInt_address hn,
    ok_bind, pure_eq_ok, Except.ok.injEq] at he
  subst he
  refine ⟨rfl, ?_⟩
  rw [Option.some.injEq, ← width_eq_iff (k := rest.length + 1) (by omega)]
  push_cast
  constructor <;> intro h <;> omega

/-- No marker has come since the last named row. -/
def Unopened (pre : List String) : Prop :=
  ∃ closed between, pre = closed ++ between ∧
    (closed = [] ∨ ∃ pre₀ line₀ s₀ r₀, closed = pre₀ ++ [line₀] ∧ RowAt pre₀ line₀ s₀ r₀) ∧
    ∀ l ∈ between, ∀ opened start, readLine opened l ≠ .ok (.marker start)

theorem Unopened.pending (hu : Unopened pre) (h : pre.foldlM step fresh = .ok s) : s.pendingStart = none := by
  obtain ⟨closed, between, rfl, hclosed, hbetween⟩ := hu
  obtain ⟨t, ht, h⟩ := Passes.append.1 h
  have h0 : t.pendingStart = none := by
    rcases hclosed with rfl | ⟨pre₀, line₀, s₀, r₀, rfl, hrow⟩
    · exact Passes.nil.1 ht ▸ rfl
    · obtain ⟨s₁, hs₁, ht⟩ := Passes.append.1 ht
      obtain rfl : s₀ = s₁ := by simpa [hrow.before] using hs₁
      obtain ⟨t', ht', ht⟩ := Passes.cons.1 ht
      obtain ⟨e, -, rfl⟩ := step_row_inv hrow.read ht'
      exact Passes.nil.1 ht ▸ rfl
  refine Passes.invariant (I := fun s => s.pendingStart = none) (fun s line t hs hmem hI => ?_) h h0
  rcases step_cases hs with ⟨start, hread, rfl⟩ | ⟨_, _, rfl⟩ | ⟨_, _, _, _, rfl⟩ | ⟨_, rfl⟩
  · exact absurd hread (hbetween line hmem s.opened start)
  · simpa using hI
  · rfl
  · exact hI

/-- **A field has its true width exactly if its high byte stays.** A text that is readable is
converted. Then the entry of a field's named row is still its own, with the field's first address
and the number of its addresses, exactly if no later row takes its place and the field's first and
last address have one high byte; and a row that no marker opened has no width. -/
theorem field_widths (lines : List String) :
    (Readable lines → ∃ res, processData lines = .ok res) ∧
    ∀ res, processData lines = .ok res →
      (∀ pre mark rest line post s r n, lines = pre ++ mark :: rest ++ line :: post →
        Field mark rest n r → RowAt (pre ++ mark :: rest) line s r →
          ((∃ e, OwnEntry s line r post res e ∧ e.offset = address n ∧
              e.bytes = some ((rest.length + 2 : Nat) : Int)) ↔
            Stays s line r post ∧ (n + rest.length + 1) / 128 = n / 128)) ∧
      (∀ pre line post s r e, lines = pre ++ line :: post → Unopened pre → RowAt pre line s r →
        OwnEntry s line r post res e → e.bytes = none) := by
  refine ⟨Readable.returns, fun res hres => ⟨?_, ?_⟩⟩
  · rintro pre mark rest line post s r n rfl hf hrow
    have hpending := hf.pending hrow.before
    constructor
    · rintro ⟨e, hown, -, hbytes⟩
      obtain ⟨e₀, e', he₀, hown', hfields⟩ := hrow.ownEntry hres hown.stays
      obtain rfl := hown.unique hown'
      rw [hpending] at he₀
      rw [hfields] at hbytes
      exact ⟨hown.stays, (hf.newEntry he₀).2.1 hbytes⟩
    · rintro ⟨hstays, hhigh⟩
      obtain ⟨e₀, e, he₀, hown, hfields⟩ := hrow.ownEntry hres hstays
      rw [hpending] at he₀
      obtain ⟨hoffset, hbytes⟩ := hf.newEntry he₀
      refine ⟨e, hown, ?_, ?_⟩
      · rw [hfields, hoffset]
      · rw [hfields]
        exact hbytes.2 hhigh
  · rintro pre line post s r e rfl hu hrow hown
    obtain ⟨e₀, e', he₀, hown', hfields⟩ := hrow.ownEntry hres hown.stays
    obtain rfl := hown.unique hown'
    rw [hu.pending hrow.before] at he₀
    cases he₀
    rw [hfields]

/-- The foot volume's first field (`specs/PatchEfct.txt:1-4`) has its four addresses. -/
theorem field_width_volume :
    ∃ e, OwnEntry { fresh with pendingStart := some [0, 0] }
        "| 00 03 | 0000 dddd | FOOT VOLUME:VOLUME MIN (0 - 1000) |"
        ⟨"FOOT VOLUME:VOLUME MIN", [0, 3], [0, 1000]⟩ []
        [("FOOT VOLUME:VOLUME MIN", ⟨[0, 0], [0, 1000], some 4, []⟩)] e ∧
      e.offset = [0, 0] ∧ e.bytes = some 4 := by
  have hf : Field "|# 00 00 | 0000 aaaa | |" ["| 00 01 | 0000 bbbb | |", "| 00 02 | 0000 cccc | |"] 0
      ⟨"FOOT VOLUME:VOLUME MIN", [0, 3], [0, 1000]⟩ := by
    refine ⟨fun opened => ?_, ⟨⟨fun opened => ?_, by decide +kernel⟩, ⟨fun opened => ?_, by decide +kernel⟩,
      trivial⟩, rfl, by decide⟩
    all_goals cases opened <;> decide +kernel
  have hrow : RowAt ([] ++ "|# 00 00 | 0000 aaaa | |" :: ["| 00 01 | 0000 bbbb | |", "| 00 02 | 0000 cccc | |"])
      "| 00 03 | 0000 dddd | FOOT VOLUME:VOLUME MIN (0 - 1000) |" { fresh with pendingStart := some [0, 0] }
      ⟨"FOOT VOLUME:VOLUME MIN", [0, 3], [0, 1000]⟩ := ⟨by decide +kernel, by decide +kernel⟩
  exact (((field_widths _).2 _ (by decide +kernel)).1 _ _ _ _ _ _ _ _ rfl hf hrow).2
    ⟨fun _ _ => trivial, by decide⟩

/-- A field from 00 7E to 01 01 has four addresses; its width comes out as 132. -/
theorem field_width_crossing :
    Field "|# 00 7E | 0000 aaaa | |" ["| 00 7F | 0000 bbbb | |", "| 01 00 | 0000 cccc | |"] 126
      ⟨"PEDAL POSITION", [1, 1], [0, 1000]⟩ ∧
    processData ["|# 00 7E | 0000 aaaa | |", "| 00 7F | 0000 bbbb | |", "| 01 00 | 0000 cccc | |",
      "| 01 01 | 0000 dddd | PEDAL POSITION (0 - 1000) |"] =
        .ok [("PEDAL POSITION", ⟨[0, 126], [0, 1000], some 132, []⟩)] := by
  refine ⟨⟨fun opened => ?_, ⟨⟨fun opened => ?_, by decide +kernel⟩, ⟨fun opened => ?_, by decide +kernel⟩,
    trivial⟩, rfl, by decide⟩, by decide +kernel⟩
  all_goals cases opened <;> decide +kernel

end Pygt1000.OptionsToJson
