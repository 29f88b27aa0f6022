import Mathlib.Data.Nat.Notation
import Mathlib.Tactic.Lemma
import TestWeaver.Text.Utf8

/-!
Octets that hold a text are the octets of that text, and none of them but those of ASCII characters
is below 0x80.
-/

namespace TestWeaver.Proofs.Utf8Octets

open Utf8

/-! ### Single characters -/

lemma toNat_ofNat {n : ℕ} (h : n.isValidChar) : (Char.ofNat n).toNat = n := by
  unfold Char.ofNat
  rw [dif_pos h]
  rfl

lemma ofNat_eq {n : ℕ} {b : UInt8} (h : n = b.toNat) : UInt8.ofNat n = b := by
  rw [h, UInt8.ofNat_toNat]

/-- An octet that does not open a character. -/
def Tail (b : UInt8) : Prop := 0x80 ≤ b.toNat ∧ b.toNat ≤ 0xBF

lemma encodeChar_one {b : UInt8} (h : b.toNat < 0x80) : encodeChar (Char.ofNat b.toNat) = [b] := by
  have hn : (Char.ofNat b.toNat).toNat = b.toNat := toNat_ofNat (.inl (by omega))
  simp only [encodeChar, hn]
  rw [if_pos h, UInt8.ofNat_toNat]

lemma encodeChar_two {b b₁ : UInt8} (h : 0xC2 ≤ b.toNat) (h' : b.toNat < 0xE0) (h₁ : Tail b₁) :
    encodeChar (Char.ofNat ((b.toNat - 0xC0) * 64 + (b₁.toNat - 0x80))) = [b, b₁] := by
  obtain ⟨h₁, h₁'⟩ := h₁
  have hn := toNat_ofNat (n := (b.toNat - 0xC0) * 64 + (b₁.toNat - 0x80)) (.inl (by omega))
  simp only [encodeChar, hn, Nat.pow_eq, Nat.pow_zero, Nat.div_one]
  rw [if_neg (by omega), if_pos (by omega), ofNat_eq (b := b) (by omega),
    ofNat_eq (b := b₁) (by omega)]

/-- Neither is the character shorter than it is written, nor is it half of a pair. -/
lemma encodeChar_three {b b₁ b₂ : UInt8} (h : 0xE0 ≤ b.toNat) (h' : b.toNat < 0xF0)
    (h₁ : Tail b₁) (hlow : b.toNat = 0xE0 → 0xA0 ≤ b₁.toNat)
    (hhigh : b.toNat = 0xED → b₁.toNat ≤ 0x9F) (h₂ : Tail b₂) :
    encodeChar (Char.ofNat
      (((b.toNat - 0xE0) * 64 + (b₁.toNat - 0x80)) * 64 + (b₂.toNat - 0x80))) = [b, b₁, b₂] := by
  obtain ⟨h₁, h₁'⟩ := h₁
  obtain ⟨h₂, h₂'⟩ := h₂
  have hvalid : (((b.toNat - 0xE0) * 64 + (b₁.toNat - 0x80)) * 64 +
      (b₂.toNat - 0x80)).isValidChar := by
    by_cases hb : b.toNat < 0xEE
    · exact .inl (by omega)
    · exact .inr (by omega)
  simp only [encodeChar, toNat_ofNat hvalid, Nat.pow_eq, Nat.pow_zero, Nat.div_one]
  rw [if_neg (by omega), if_neg (by omega), if_pos (by omega), ofNat_eq (b := b) (by omega),
    ofNat_eq (b := b₁) (by omega), ofNat_eq (b := b₂) (by omega)]

lemma encodeChar_four {b b₁ b₂ b₃ : UInt8} (h : 0xF0 ≤ b.toNat) (h' : b.toNat < 0xF5)
    (h₁ : Tail b₁) (hlow : b.toNat = 0xF0 → 0x90 ≤ b₁.toNat)
    (hhigh : b.toNat = 0xF4 → b₁.toNat ≤ 0x8F) (h₂ : Tail b₂) (h₃ : Tail b₃) :
    encodeChar (Char.ofNat
      ((((b.toNat - 0xF0) * 64 + (b₁.toNat - 0x80)) * 64 + (b₂.toNat - 0x80)) * 64 +
        (b₃.toNat - 0x80))) = [b, b₁, b₂, b₃] := by
  obtain ⟨h₁, h₁'⟩ := h₁
  obtain ⟨h₂, h₂'⟩ := h₂
  obtain ⟨h₃, h₃'⟩ := h₃
  have hvalid : ((((b.toNat - 0xF0) * 64 + (b₁.toNat - 0x80)) * 64 + (b₂.toNat - 0x80)) * 64 +
      (b₃.toNat - 0x80)).isValidChar := .inr (by omega)
  simp only [encodeChar, toNat_ofNat hvalid, Nat.pow_eq, Nat.pow_zero, Nat.div_one]
  rw [if_neg (by omega), if_neg (by omega), if_neg (by omega), ofNat_eq (b := b) (by omega),
    ofNat_eq (b := b₁) (by omega), ofNat_eq (b := b₂) (by omega), ofNat_eq (b := b₃) (by omega)]

/-! ### Reading octet by octet -/

/-- Characters of which one, two or three octets are read, and how many there are to be. -/
inductive Opened : Pending → Prop
  | oneOfTwo {b : UInt8} (h : 0xC2 ≤ b.toNat) (h' : b.toNat < 0xE0) :
      Opened ⟨1, 0x80, 0xBF, b.toNat - 0xC0, [b]⟩
  | oneOfThree {b : UInt8} (h : 0xE0 ≤ b.toNat) (h' : b.toNat < 0xF0) :
      Opened ⟨2, if b.toNat = 0xE0 then 0xA0 else 0x80, if b.toNat = 0xED then 0x9F else 0xBF,
        b.toNat - 0xE0, [b]⟩
  | twoOfThree {b b₁ : UInt8} (h : 0xE0 ≤ b.toNat) (h' : b.toNat < 0xF0) (h₁ : Tail b₁)
      (hlow : b.toNat = 0xE0 → 0xA0 ≤ b₁.toNat) (hhigh : b.toNat = 0xED → b₁.toNat ≤ 0x9F) :
      Opened ⟨1, 0x80, 0xBF, (b.toNat - 0xE0) * 64 + (b₁.toNat - 0x80), [b, b₁]⟩
  | oneOfFour {b : UInt8} (h : 0xF0 ≤ b.toNat) (h' : b.toNat < 0xF5) :
      Opened ⟨3, if b.toNat = 0xF0 then 0x90 else 0x80, if b.toNat = 0xF4 then 0x8F else 0xBF,
        b.toNat - 0xF0, [b]⟩
  | twoOfFour {b b₁ : UInt8} (h : 0xF0 ≤ b.toNat) (h' : b.toNat < 0xF5) (h₁ : Tail b₁)
      (hlow : b.toNat = 0xF0 → 0x90 ≤ b₁.toNat) (hhigh : b.toNat = 0xF4 → b₁.toNat ≤ 0x8F) :
      Opened ⟨2, 0x80, 0xBF, (b.toNat - 0xF0) * 64 + (b₁.toNat - 0x80), [b, b₁]⟩
  | threeOfFour {b b₁ b₂ : UInt8} (h : 0xF0 ≤ b.toNat) (h' : b.toNat < 0xF5) (h₁ : Tail b₁)
      (hlow : b.toNat = 0xF0 → 0x90 ≤ b₁.toNat) (hhigh : b.toNat = 0xF4 → b₁.toNat ≤ 0x8F)
      (h₂ : Tail b₂) :
      Opened ⟨1, 0x80, 0xBF,
        ((b.toNat - 0xF0) * 64 + (b₁.toNat - 0x80)) * 64 + (b₂.toNat - 0x80), [b, b₁, b₂]⟩

/-- The octets of the character that is being read. -/
def unread (p : Option Pending) : Octets := (p.map Pending.octets).getD []

/-- What one octet does that is no fault: it ends a character, or brings it on. -/
inductive Advance (before : Octets) (b : UInt8) : List Piece × Option Pending → Prop
  | done {c : Char} (h : encodeChar c = before ++ [b]) : Advance before b ([.char c], none)
  | more {q : Pending} (hq : Opened q) (h : q.octets = before ++ [b]) :
      Advance before b ([], some q)

/-- The first octet is no character. -/
def Faulty (r : List Piece × Option Pending) : Prop := ∃ bs f ps, r.1 = .invalid bs f :: ps

lemma first_advances (b : UInt8) : Advance [] b (first b) ∨ Faulty (first b) := by
  simp only [first]
  split
  · next h => exact .inl (.done (encodeChar_one h))
  split
  · exact .inr ⟨_, _, _, rfl⟩
  split
  · next h h' => exact .inl (.more (.oneOfTwo (by omega) h') rfl)
  split
  · next h h' => exact .inl (.more (.oneOfThree (by omega) h') rfl)
  split
  · next h h' => exact .inl (.more (.oneOfFour (by omega) h') rfl)
  · exact .inr ⟨_, _, _, rfl⟩

lemma next_advances {q : Pending} (hq : Opened q) (b : UInt8) :
    Advance q.octets b (next (some q) b) ∨ Faulty (next (some q) b) := by
  by_cases hrange : q.low ≤ b.toNat ∧ b.toNat ≤ q.high
  · refine .inl ?_
    simp only [next, hrange, decide_true, Bool.and_self, if_true]
    cases hq with
    | oneOfTwo h h' => exact .done (encodeChar_two h h' hrange)
    | oneOfThree h h' =>
      obtain ⟨hlow, hhigh⟩ := hrange
      exact .more (.twoOfThree h h' ⟨by grind, by grind⟩ (by grind) (by grind)) rfl
    | twoOfThree h h' h₁ hlow hhigh => exact .done (encodeChar_three h h' h₁ hlow hhigh hrange)
    | oneOfFour h h' =>
      obtain ⟨hlow, hhigh⟩ := hrange
      exact .more (.twoOfFour h h' ⟨by grind, by grind⟩ (by grind) (by grind)) rfl
    | twoOfFour h h' h₁ hlow hhigh => exact .more (.threeOfFour h h' h₁ hlow hhigh hrange) rfl
    | threeOfFour h h' h₁ hlow hhigh h₂ =>
      exact .done (encodeChar_four h h' h₁ hlow hhigh h₂ hrange)
  · refine .inr ⟨q.octets, .badContinuation, (first b).1, ?_⟩
    simp only [next, Bool.and_eq_true, decide_eq_true_eq]
    rw [if_neg hrange]

/-- Pieces that are all characters are those of the octets. -/
lemma encode_pieces {p : Option Pending} (hp : ∀ q, p = some q → Opened q) {bs : Octets}
    {s : Text} (h : piecesFrom p bs = s.map Piece.char) : encode s = unread p ++ bs := by
  -- Octets read of a character that has not ended move from `bs` to `unread p`.
  induction bs generalizing p s with
  | nil =>
    cases p with
    | none =>
      obtain rfl := List.map_eq_nil_iff.mp h.symm
      rfl
    | some q =>
      rcases s with _ | ⟨c, s⟩ <;> simp [piecesFrom] at h
  | cons b bs ih =>
    have hstep : Advance (unread p) b (next p b) ∨ Faulty (next p b) := by
      cases p with
      | none => exact first_advances b
      | some q => exact next_advances (hp q rfl) b
    rw [piecesFrom] at h
    rcases hstep with hstep | ⟨cs, f, ps, hfault⟩
    · rcases hnext : next p b with ⟨ps, q⟩
      rw [hnext] at h hstep
      cases hstep with
      | done hc =>
        rcases s with _ | ⟨c, s⟩
        · cases h
        obtain ⟨hchar, hrest⟩ := List.cons.inj h
        obtain rfl := Piece.char.inj hchar
        have hs : encode s = bs := ih (fun _ hq => by cases hq) hrest
        rw [encode, List.flatMap_cons, hc, ← encode, hs, List.append_assoc]
        rfl
      | more hq hoctets =>
        have hs := ih (fun r hr => by cases hr; exact hq) h
        rw [hs, unread, Option.map_some, Option.getD_some, hoctets, List.append_assoc]
        rfl
    · rw [hfault] at h
      rcases s with _ | ⟨c, s⟩ <;> cases h

lemma decodePieces_ok {k : ℕ} {ps : List Piece} {s : Text} (h : decodePieces k ps = .ok s) :
    ps = s.map Piece.char := by
  induction ps generalizing k s with
  | nil =>
    obtain rfl := Except.ok.inj h
    rfl
  | cons p ps ih =>
    cases p with
    | invalid bs f => cases h
    | char c =>
      rw [decodePieces] at h
      cases hrest : decodePieces (k + (encodeChar c).length) ps with
      | error e =>
        rw [hrest] at h
        cases h
      | ok t =>
        rw [hrest] at h
        obtain rfl := Except.ok.inj h
        rw [ih hrest, List.map_cons]

/-- Octets that hold a text are the octets of that text. -/
lemma encode_of_decode {bs : Octets} {s : Text} (h : decode bs = .ok s) : encode s = bs :=
  encode_pieces (fun _ hq => by cases hq) (decodePieces_ok h)

/-! ### ASCII characters -/

lemma encodeChar_ascii {c : Char} (h : c.toNat < 0x80) : encodeChar c = [UInt8.ofNat c.toNat] := by
  simp only [encodeChar]
  rw [if_pos h]

/-- Other characters have no octets below 0x80. -/
lemma high_of_mem_encodeChar {c : Char} (h : 0x80 ≤ c.toNat) {b : UInt8} (hb : b ∈ encodeChar c) :
    0x80 ≤ b.toNat := by
  have hlt : c.toNat < 0x110000 := by
    rcases c.valid with hv | ⟨-, hv⟩
    · exact Nat.lt_trans hv (by decide)
    · exact hv
  have hoctet : ∀ n : ℕ, 0x80 ≤ n → n < 0x100 → 0x80 ≤ (UInt8.ofNat n).toNat := by
    intro n hlow hhigh
    rwa [UInt8.toNat_ofNat', Nat.mod_eq_of_lt hhigh]
  simp only [encodeChar, Nat.pow_eq, Nat.pow_zero, Nat.div_one] at hb
  rw [if_neg (by omega)] at hb
  split at hb
  · simp only [List.mem_cons, List.not_mem_nil, or_false] at hb
    rcases hb with rfl | rfl <;> exact hoctet _ (by omega) (by omega)
  split at hb
  · simp only [List.mem_cons, List.not_mem_nil, or_false] at hb
    rcases hb with rfl | rfl | rfl <;> exact hoctet _ (by omega) (by omega)
  · simp only [List.mem_cons, List.not_mem_nil, or_false] at hb
    rcases hb with rfl | rfl | rfl | rfl <;> exact hoctet _ (by omega) (by omega)

/-- The octet of an ASCII character stands for that character only. -/
lemma mem_encode_ascii {c : Char} (h : c.toNat < 0x80) {s : Text} :
    UInt8.ofNat c.toNat ∈ encode s ↔ c ∈ s := by
  have hvalue : (UInt8.ofNat c.toNat).toNat = c.toNat := by
    rw [UInt8.toNat_ofNat', Nat.mod_eq_of_lt (by omega)]
  rw [encode, List.mem_flatMap]
  refine ⟨fun ⟨d, hd, hmem⟩ => ?_, fun hc => ⟨c, hc, by simp [encodeChar_ascii h]⟩⟩
  by_cases hlow : d.toNat < 0x80
  · rw [encodeChar_ascii hlow, List.mem_singleton, ← UInt8.toNat_inj, hvalue, UInt8.toNat_ofNat',
      Nat.mod_eq_of_lt (by omega)] at hmem
    have hchar : c = d := by rw [← Char.ofNat_toNat c, hmem, Char.ofNat_toNat]
    rwa [hchar]
  · have := high_of_mem_encodeChar (by omega) hmem
    omega

end TestWeaver.Proofs.Utf8Octets
