/-
# Texts and their bytes

The decoder inverts the encoder: bytes without faults are the bytes of exactly
one text, and that text is read from them.

A character that has begun is described by the numbers it can still become,
`Pending.Allows`; what a first byte leaves is read off the table of first bytes,
`LeadLine`.  In one direction, `exists_lead_eq_begins` finds the first byte of a
character in the table and `foldl_step_trail` reads the other bytes.  In the
other direction `Begun` says that whatever a character that has begun becomes,
the bytes read so far are the first of its bytes; each step of the decoder keeps
this as long as there is no fault.
-/

import Mathlib.Algebra.Group.Nat.Defs
import Mathlib.Data.List.Induction
import Polyglot.Text.Utf8

namespace Polyglot

namespace Utf8

@[simp]
theorem encode_nil : encode [] = [] := rfl

@[simp]
theorem encode_append (first second : List Char) :
    encode (first ++ second) = encode first ++ encode second :=
  List.flatMap_append

/-! ## The bytes of a character -/

/-- The last bytes of a character with a number, of which each has six bits. -/
def trail : Nat → Nat → List UInt8
  | 0, _ => []
  | count + 1, n => UInt8.ofNat (n / 64 ^ count % 64 + 0x80) :: trail count n

/-- What a first byte is made of besides bits, given how many bytes follow it less one. -/
def leadMark : Nat → Nat
  | 0 => 0xc0
  | 1 => 0xe0
  | _ => 0xf0

/-- The numbers of the characters with so many bytes behind the first, less one. -/
def InClass : Nat → Nat → Prop
  | 0, n => 0x80 ≤ n ∧ n < 0x800
  | 1, n => 0x800 ≤ n ∧ n < 0x10000
  | 2, n => 0x10000 ≤ n ∧ n < 0x110000
  | _, _ => False

theorem toNat_trailByte (n count : Nat) :
    (UInt8.ofNat (n / 64 ^ count % 64 + 0x80)).toNat = n / 64 ^ count % 64 + 0x80 := by
  rw [UInt8.toNat_ofNat']
  omega

/-- A character of more than one byte has a first byte and a trail. -/
theorem utf8EncodeChar_of_inClass {c : Char} {more : Nat} (hclass : InClass more c.toNat) :
    String.utf8EncodeChar c =
      UInt8.ofNat (leadMark more + c.toNat / 64 ^ (more + 1)) :: trail (more + 1) c.toNat := by
  match more, hclass with
  | 0, ⟨hlow, hhigh⟩ =>
      have hfirst : c.toNat / 64 % 32 + 192 = 192 + c.toNat / 64 := by omega
      simp [String.utf8EncodeChar, trail, leadMark, hfirst, show ¬ c.toNat ≤ 127 by omega,
        show c.toNat ≤ 2047 by omega]
  | 1, ⟨hlow, hhigh⟩ =>
      have hfirst : c.toNat / 4096 % 16 + 224 = 224 + c.toNat / 4096 := by omega
      simp [String.utf8EncodeChar, trail, leadMark, hfirst, show ¬ c.toNat ≤ 127 by omega,
        show ¬ c.toNat ≤ 2047 by omega, show c.toNat ≤ 65535 by omega]
  | 2, ⟨hlow, hhigh⟩ =>
      have hfirst : c.toNat / 262144 % 8 + 240 = 240 + c.toNat / 262144 := by omega
      simp [String.utf8EncodeChar, trail, leadMark, hfirst, show ¬ c.toNat ≤ 127 by omega,
        show ¬ c.toNat ≤ 2047 by omega, show ¬ c.toNat ≤ 65535 by omega]

theorem utf8EncodeChar_of_lt {c : Char} (hlt : c.toNat < 0x80) :
    String.utf8EncodeChar c = [UInt8.ofNat c.toNat] := by
  simp [String.utf8EncodeChar, show c.toNat ≤ 127 by omega]

/-- Every character has one byte or is in a class. -/
theorem lt_or_exists_inClass (c : Char) : c.toNat < 0x80 ∨ ∃ more, InClass more c.toNat := by
  have hbound : c.toNat < 0x110000 := by
    rcases c.valid with hlow | ⟨-, hhigh⟩
    · exact Nat.lt_trans hlow (by decide)
    · exact hhigh
  by_cases hone : c.toNat < 0x80
  · exact Or.inl hone
  · by_cases htwo : c.toNat < 0x800
    · exact Or.inr ⟨0, by omega, htwo⟩
    · by_cases hthree : c.toNat < 0x10000
      · exact Or.inr ⟨1, by omega, hthree⟩
      · exact Or.inr ⟨2, by omega, hbound⟩

/-! ## Characters that have begun -/

namespace Pending

/-- The numbers that a character that has begun can still become. -/
structure Allows (pending : Pending) (n : Nat) : Prop where
  /-- The bits read so far are its first bits. -/
  bits_eq : n / 64 ^ (pending.more + 1) = pending.bits
  /-- The next byte is not below the bound. -/
  low_le : pending.low.toNat ≤ n / 64 ^ pending.more % 64 + 0x80
  /-- The next byte is not above the bound. -/
  le_high : n / 64 ^ pending.more % 64 + 0x80 ≤ pending.high.toNat

/-- The bounds of the next byte leave only bytes that do not begin a character. -/
structure Bounded (pending : Pending) : Prop where
  /-- The lower bound. -/
  le_low : 0x80 ≤ pending.low.toNat
  /-- The upper bound. -/
  high_le : pending.high.toNat ≤ 0xbf

end Pending

/-- The lines of the table of first bytes, from the least byte to the greatest. -/
inductive LeadLine (n : Nat) : Lead → Prop
  | ascii (hhigh : n < 0x80) : LeadLine n (.whole (Char.ofNat n))
  | notFirst (hlow : ¬ n < 0x80) (hhigh : n < 0xc2) : LeadLine n .fault
  | two (hlow : ¬ n < 0xc2) (hhigh : n < 0xe0) : LeadLine n (.begins ⟨0, 0x80, 0xbf, n - 0xc0⟩)
  | notOverlongThree (heq : n = 0xe0) : LeadLine n (.begins ⟨1, 0xa0, 0xbf, n - 0xe0⟩)
  | notSurrogate (heq : n = 0xed) : LeadLine n (.begins ⟨1, 0x80, 0x9f, n - 0xe0⟩)
  | three (hlow : ¬ n < 0xe0) (hfirst : n ≠ 0xe0) (hsurrogate : n ≠ 0xed) (hhigh : n < 0xf0) :
      LeadLine n (.begins ⟨1, 0x80, 0xbf, n - 0xe0⟩)
  | notOverlongFour (heq : n = 0xf0) : LeadLine n (.begins ⟨2, 0x90, 0xbf, n - 0xf0⟩)
  | four (hlow : ¬ n < 0xf0) (hfirst : n ≠ 0xf0) (hhigh : n < 0xf4) :
      LeadLine n (.begins ⟨2, 0x80, 0xbf, n - 0xf0⟩)
  | notTooLarge (heq : n = 0xf4) : LeadLine n (.begins ⟨2, 0x80, 0x8f, n - 0xf0⟩)
  | never (hlow : ¬ n < 0xf4) (hlast : n ≠ 0xf4) : LeadLine n .fault

/-- Every byte is on one line of the table. -/
theorem leadLine_lead (b : UInt8) : LeadLine b.toNat (lead b) := by
  rw [lead]
  refine iteInduction (fun h => .ascii h) fun h80 => ?_
  refine iteInduction (fun h => .notFirst h80 h) fun hc2 => ?_
  refine iteInduction (fun h => .two hc2 h) fun he0 => ?_
  refine iteInduction (fun h => .notOverlongThree h) fun hfirst => ?_
  refine iteInduction (fun h => .notSurrogate h) fun hsurrogate => ?_
  refine iteInduction (fun h => .three he0 hfirst hsurrogate h) fun hf0 => ?_
  refine iteInduction (fun h => .notOverlongFour h) fun hfirst => ?_
  refine iteInduction (fun h => .four hf0 hfirst h) fun hf4 => ?_
  exact iteInduction (fun h => .notTooLarge h) fun hlast => .never hf4 hlast

/-- A first byte leaves the characters of its class that begin with it. -/
theorem inClass_of_lead {b : UInt8} {pending : Pending} (hlead : lead b = .begins pending) :
    pending.Bounded ∧ ∀ n, pending.Allows n →
      n.isValidChar ∧ InClass pending.more n ∧
        b.toNat = leadMark pending.more + n / 64 ^ (pending.more + 1) := by
  have line := leadLine_lead b
  rw [hlead] at line
  cases line <;>
    refine ⟨⟨by simp, by simp⟩, fun n ⟨hbits, hlow, hhigh⟩ => ?_⟩ <;>
    simp only [Nat.isValidChar, InClass, leadMark, UInt8.reduceToNat, Nat.reduceAdd,
      Nat.reducePow, Nat.div_one] at hbits hlow hhigh ⊢ <;>
    omega

/-- A number in a class is left by its first byte. -/
theorem exists_lead_eq_begins {b : UInt8} {n more : Nat} (valid : n.isValidChar)
    (hclass : InClass more n) (hb : b.toNat = leadMark more + n / 64 ^ (more + 1)) :
    ∃ pending, lead b = .begins pending ∧ pending.more = more ∧ pending.Allows n := by
  rw [Nat.isValidChar] at valid
  have line := leadLine_lead b
  match more, hclass with
  | 0, ⟨hlow, hhigh⟩ | 1, ⟨hlow, hhigh⟩ | 2, ⟨hlow, hhigh⟩ =>
      simp only [leadMark, Nat.reduceAdd, Nat.reducePow] at hb
      generalize lead b = read at line ⊢
      -- The lines of the table that the number does not select are refuted by its bounds.
      cases line <;> first
        | omega
        | refine ⟨_, rfl, rfl, ?_, ?_, ?_⟩ <;>
            simp only [UInt8.reduceToNat, Nat.reduceAdd, Nat.reducePow, Nat.div_one] <;> omega

/-- The first byte of a character in a class is not cut off. -/
theorem toNat_leadByte {n more : Nat} (hclass : InClass more n) :
    (UInt8.ofNat (leadMark more + n / 64 ^ (more + 1))).toNat =
      leadMark more + n / 64 ^ (more + 1) := by
  rw [UInt8.toNat_ofNat']
  match more, hclass with
  | 0, ⟨hlow, hhigh⟩ | 1, ⟨hlow, hhigh⟩ | 2, ⟨hlow, hhigh⟩ =>
      simp only [leadMark, Nat.reduceAdd, Nat.reducePow]
      omega

/-! ## The step of the decoder -/

namespace Pending

/-- A character that has begun, with one more byte read. -/
def next (pending : Pending) (more : Nat) (b : UInt8) : Pending :=
  ⟨more, 0x80, 0xbf, pending.bits * 64 + (b.toNat - 0x80)⟩

theorem bounded_next (pending : Pending) (more : Nat) (b : UInt8) :
    (pending.next more b).Bounded :=
  ⟨Nat.le_refl _, Nat.le_refl _⟩

variable {pending : Pending} {n : Nat}

theorem div_pow_succ (n more : Nat) : n / 64 ^ (more + 1) = n / 64 ^ more / 64 := by
  rw [Nat.pow_succ, Nat.div_div_eq_div_mul]

/-- The bits read so far and those of the next byte are bits of the number. -/
theorem Allows.bits_mul_add (allows : pending.Allows n) :
    pending.bits * 64 + n / 64 ^ pending.more % 64 = n / 64 ^ pending.more := by
  rw [← allows.bits_eq, div_pow_succ, Nat.mul_comm, Nat.div_add_mod]

/-- A number with the bits read so far and those of the next byte is allowed. -/
theorem allows_of_div_eq (bounded : pending.Bounded) {b : UInt8}
    (hlow : pending.low.toNat ≤ b.toNat) (hhigh : b.toNat ≤ pending.high.toNat)
    (hbits : n / 64 ^ pending.more = pending.bits * 64 + (b.toNat - 0x80)) :
    pending.Allows n ∧ n / 64 ^ pending.more % 64 + 0x80 = b.toNat := by
  obtain ⟨hle, hge⟩ := bounded
  have hbyte : n / 64 ^ pending.more % 64 + 0x80 = b.toNat := by omega
  refine ⟨⟨?_, hbyte ▸ hlow, hbyte ▸ hhigh⟩, hbyte⟩
  rw [div_pow_succ]
  omega

end Pending

/-- A byte between the bounds is read into the character that has begun. -/
theorem step_of_mem {pending : Pending} {b : UInt8} (hlow : pending.low.toNat ≤ b.toNat)
    (hhigh : b.toNat ≤ pending.high.toNat) (text : List Char) (sound : Bool) :
    State.step ⟨text, some pending, sound⟩ b =
      match pending.more with
      | 0 => ⟨Char.ofNat (pending.bits * 64 + (b.toNat - 0x80)) :: text, none, sound⟩
      | more + 1 => ⟨text, some (pending.next more b), sound⟩ := by
  have hmem : (decide (pending.low ≤ b) && decide (b ≤ pending.high)) = true := by
    simp [UInt8.le_iff_toNat_le, hlow, hhigh]
  rw [State.step]
  exact if_pos hmem

/-! ## Reading what was written -/

/-- The next byte of a number that is allowed is read into the character that has begun. -/
theorem step_of_allows {pending : Pending} {n : Nat} (allows : pending.Allows n)
    (text : List Char) (sound : Bool) :
    State.step ⟨text, some pending, sound⟩ (UInt8.ofNat (n / 64 ^ pending.more % 64 + 0x80)) =
      match pending.more with
      | 0 => ⟨Char.ofNat n :: text, none, sound⟩
      | more + 1 => ⟨text, some ⟨more, 0x80, 0xbf, n / 64 ^ (more + 1)⟩, sound⟩ := by
  have hbyte := toNat_trailByte n pending.more
  rw [step_of_mem (hbyte.symm ▸ allows.low_le) (hbyte.symm ▸ allows.le_high)]
  have hbits : pending.bits * 64 +
      ((UInt8.ofNat (n / 64 ^ pending.more % 64 + 0x80)).toNat - 0x80) = n / 64 ^ pending.more := by
    rw [hbyte, Nat.add_sub_cancel, allows.bits_mul_add]
  simp only [Pending.next, hbits]
  cases pending.more with
  | zero => simp only [Nat.pow_zero, Nat.div_one]
  | succ more => rfl

/-- The bytes behind the first one make a character that has begun whole. -/
theorem foldl_step_trail {pending : Pending} {n : Nat} (allows : pending.Allows n)
    (text : List Char) (sound : Bool) :
    (trail (pending.more + 1) n).foldl State.step ⟨text, some pending, sound⟩ =
      ⟨Char.ofNat n :: text, none, sound⟩ := by
  -- One byte fewer is to come after each step.
  induction hmore : pending.more generalizing pending with
  | zero =>
      have hstep := step_of_allows allows text sound
      rw [hmore] at hstep
      rw [trail, trail, List.foldl_cons, List.foldl_nil, hstep]
  | succ more ih =>
      have hstep := step_of_allows allows text sound
      rw [hmore] at hstep
      rw [trail, List.foldl_cons, hstep]
      refine ih ⟨rfl, Nat.le_add_left _ _, ?_⟩ rfl
      exact Nat.add_le_add_right (Nat.le_of_lt_succ (Nat.mod_lt _ (by decide))) _

/-- The bytes of a character are read as the character. -/
theorem foldl_step_utf8EncodeChar (c : Char) (text : List Char) (sound : Bool) :
    (String.utf8EncodeChar c).foldl State.step ⟨text, none, sound⟩ =
      ⟨c :: text, none, sound⟩ := by
  rcases lt_or_exists_inClass c with hlt | ⟨more, hclass⟩
  · have hbyte : (UInt8.ofNat c.toNat).toNat = c.toNat := by
      rw [UInt8.toNat_ofNat']
      omega
    have hlead : lead (UInt8.ofNat c.toNat) = .whole c := by
      rw [lead, hbyte, Char.ofNat_toNat]
      exact if_pos hlt
    rw [utf8EncodeChar_of_lt hlt, List.foldl_cons, List.foldl_nil, State.step, State.first, hlead]
  · have valid : c.toNat.isValidChar := c.valid
    obtain ⟨pending, hlead, rfl, allows⟩ :=
      exists_lead_eq_begins valid hclass (toNat_leadByte hclass)
    have htrail := foldl_step_trail allows text sound
    rw [Char.ofNat_toNat] at htrail
    rw [utf8EncodeChar_of_inClass hclass, List.foldl_cons, State.step, State.first]
    simp only [hlead, htrail]

/-- The bytes of a text are read as the text, without faults. -/
theorem run_encode (text : List Char) : run (encode text) = ⟨text.reverse, none, true⟩ := by
  have hread (read : List Char) : (encode text).foldl State.step ⟨read, none, true⟩ =
      ⟨text.reverse ++ read, none, true⟩ := by
    induction text generalizing read with
    | nil => rfl
    | cons c text ih =>
        rw [encode, List.flatMap_cons, List.foldl_append, foldl_step_utf8EncodeChar, ← encode, ih,
          List.reverse_cons, List.append_assoc]
        rfl
  rw [run, State.initial, hread, List.append_nil]
  rfl

theorem isValid_encode (text : List Char) : isValid (encode text) = true := by
  rw [isValid, run_encode]

theorem decodeLossy_encode (text : List Char) : decodeLossy (encode text) = text := by
  rw [decodeLossy, run_encode, List.reverse_reverse]

/-! ## Writing what was read -/

/-- A character that has begun with some bytes: whichever it becomes, they are its first
bytes. -/
structure Begun (pending : Pending) (bytes : List UInt8) : Prop where
  /-- The bounds of the next byte. -/
  bounded : pending.Bounded
  /-- The numbers that it can still become are numbers of characters. -/
  valid : ∀ n, pending.Allows n → n.isValidChar
  /-- The bytes read so far begin their bytes. -/
  encode_eq : ∀ n, pending.Allows n →
    String.utf8EncodeChar (Char.ofNat n) = bytes ++ trail (pending.more + 1) n

theorem toNat_ofNat {n : Nat} (valid : n.isValidChar) : (Char.ofNat n).toNat = n := by
  rw [Char.ofNat, dif_pos valid]
  rfl

theorem begun_of_lead {b : UInt8} {pending : Pending} (hlead : lead b = .begins pending) :
    Begun pending [b] := by
  obtain ⟨bounded, hallows⟩ := inClass_of_lead hlead
  refine ⟨bounded, fun n allows => (hallows n allows).1, fun n allows => ?_⟩
  obtain ⟨valid, hclass, hb⟩ := hallows n allows
  rw [← toNat_ofNat valid] at hclass
  rw [utf8EncodeChar_of_inClass hclass, toNat_ofNat valid, ← hb, UInt8.ofNat_toNat]
  rfl

/-- What the decoder has read, if there was no fault: the text, and behind it the first bytes
of a character if one has begun. -/
def Explains (state : State) (bytes : List UInt8) : Prop :=
  ∃ begun, bytes = encode state.text.reverse ++ begun ∧
    match state.pending with
    | none => begun = []
    | some pending => Begun pending begun

theorem encode_concat (text : List Char) (c : Char) :
    encode (text ++ [c]) = encode text ++ String.utf8EncodeChar c := by
  simp [encode]

/-- Text that ends with a whole character. -/
theorem explains_cons {text : List Char} {bytes begun : List UInt8} {c : Char}
    (hbytes : bytes = encode text.reverse ++ begun) (hchar : String.utf8EncodeChar c = begun)
    (sound : Bool) : Explains ⟨c :: text, none, sound⟩ bytes := by
  refine ⟨[], ?_, rfl⟩
  rw [hbytes, List.reverse_cons, encode_concat, hchar, List.append_nil]

theorem utf8EncodeChar_of_lead_whole {b : UInt8} {c : Char} (hlead : lead b = .whole c) :
    String.utf8EncodeChar c = [b] := by
  have line := leadLine_lead b
  rw [hlead] at line
  cases line with
  | ascii hlt =>
      have hnat : (Char.ofNat b.toNat).toNat = b.toNat :=
        toNat_ofNat (Or.inl (Nat.lt_trans hlt (by decide)))
      rw [utf8EncodeChar_of_lt (hnat.symm ▸ hlt), hnat, UInt8.ofNat_toNat]

/-- A byte where a character may begin is explained unless it is a fault. -/
theorem explains_first {text : List Char} {pending : Option Pending} {bytes : List UInt8}
    {b : UInt8} (hbytes : bytes = encode text.reverse)
    (hsound : (State.first ⟨text, pending, true⟩ b).sound = true) :
    Explains (State.first ⟨text, pending, true⟩ b) (bytes ++ [b]) := by
  rw [State.first] at hsound ⊢
  cases hlead : lead b with
  | whole c =>
      exact explains_cons (by rw [hbytes]) (utf8EncodeChar_of_lead_whole hlead) true
  | begins pending =>
      exact ⟨[b], by rw [hbytes], begun_of_lead hlead⟩
  | fault =>
      simp only [hlead] at hsound
      contradiction

/-- The first byte of a trail is a byte read. -/
theorem trail_succ {n count : Nat} {b : UInt8} (hbyte : n / 64 ^ count % 64 + 0x80 = b.toNat) :
    trail (count + 1) n = [b] ++ trail count n := by
  rw [trail, hbyte, UInt8.ofNat_toNat]
  rfl

/-- A byte between the bounds that does not end the character that has begun. -/
theorem Begun.next {pending : Pending} {begun : List UInt8} (hbegun : Begun pending begun)
    {more : Nat} (hmore : pending.more = more + 1) {b : UInt8}
    (hlow : pending.low.toNat ≤ b.toNat) (hhigh : b.toNat ≤ pending.high.toNat) :
    Begun (pending.next more b) (begun ++ [b]) := by
  have hallows {n : Nat} (allows : (pending.next more b).Allows n) :
      pending.Allows n ∧ n / 64 ^ pending.more % 64 + 0x80 = b.toNat := by
    have hbits : n / 64 ^ pending.more = pending.bits * 64 + (b.toNat - 0x80) := by
      rw [hmore]
      exact allows.bits_eq
    exact Pending.allows_of_div_eq hbegun.bounded hlow hhigh hbits
  refine ⟨pending.bounded_next more b, fun n allows => hbegun.valid n (hallows allows).1,
    fun n allows => ?_⟩
  obtain ⟨hpending, hbyte⟩ := hallows allows
  rw [hbegun.encode_eq n hpending, trail_succ hbyte, hmore, List.append_assoc]
  rfl

/-- The character that the last byte makes of one that has begun. -/
theorem Begun.utf8EncodeChar_eq {pending : Pending} {begun : List UInt8}
    (hbegun : Begun pending begun) (hmore : pending.more = 0) {b : UInt8}
    (hlow : pending.low.toNat ≤ b.toNat) (hhigh : b.toNat ≤ pending.high.toNat) :
    String.utf8EncodeChar (Char.ofNat (pending.bits * 64 + (b.toNat - 0x80))) = begun ++ [b] := by
  have hbits : (pending.bits * 64 + (b.toNat - 0x80)) / 64 ^ pending.more =
      pending.bits * 64 + (b.toNat - 0x80) := by
    rw [hmore, Nat.pow_zero, Nat.div_one]
  obtain ⟨allows, hbyte⟩ := Pending.allows_of_div_eq hbegun.bounded hlow hhigh hbits
  rw [hbegun.encode_eq _ allows, trail_succ hbyte, hmore]
  rfl

/-- A byte outside the bounds of the character that has begun is a fault. -/
theorem mem_of_sound_step {text : List Char} {pending : Pending} {b : UInt8}
    (hsound : (State.step ⟨text, some pending, true⟩ b).sound = true) :
    pending.low.toNat ≤ b.toNat ∧ b.toNat ≤ pending.high.toNat := by
  by_cases hmem : (decide (pending.low ≤ b) && decide (b ≤ pending.high)) = true
  · rw [Bool.and_eq_true, decide_eq_true_iff, decide_eq_true_iff] at hmem
    exact hmem
  · simp only [State.step, if_neg hmem, State.first] at hsound
    split at hsound <;> contradiction

/-- Once there was a fault, no byte undoes it. -/
theorem sound_of_sound_step {state : State} {b : UInt8} (hsound : (state.step b).sound = true) :
    state.sound = true := by
  simp only [State.step, State.first] at hsound
  split at hsound
  · split at hsound <;> first | exact hsound | contradiction
  · split at hsound
    · split at hsound <;> exact hsound
    · split at hsound <;> contradiction

/-- Every byte is explained up to the first fault. -/
theorem explains_step {state : State} {bytes : List UInt8} (explains : Explains state bytes)
    {b : UInt8} (hsound : (state.step b).sound = true) :
    Explains (state.step b) (bytes ++ [b]) := by
  have hbefore := sound_of_sound_step hsound
  obtain ⟨text, pending, sound⟩ := state
  subst hbefore
  obtain ⟨begun, hbytes, hbegun⟩ := explains
  cases pending with
  | none =>
      subst hbegun
      rw [List.append_nil] at hbytes
      exact explains_first hbytes hsound
  | some pending =>
      obtain ⟨hlow, hhigh⟩ := mem_of_sound_step hsound
      rw [step_of_mem hlow hhigh]
      have hbytes' : bytes ++ [b] = encode text.reverse ++ (begun ++ [b]) := by
        rw [hbytes, List.append_assoc]
      cases hmore : pending.more with
      | zero =>
          exact explains_cons hbytes' (hbegun.utf8EncodeChar_eq hmore hlow hhigh) true
      | succ more =>
          exact ⟨begun ++ [b], hbytes', hbegun.next hmore hlow hhigh⟩

/-- Bytes without faults are explained by the state behind them. -/
theorem explains_foldl_step (bytes : List UInt8)
    (hsound : (bytes.foldl State.step State.initial).sound = true) :
    Explains (bytes.foldl State.step State.initial) bytes := by
  induction bytes using List.reverseRecOn with
  | nil => exact ⟨[], rfl, rfl⟩
  | append_singleton bytes b ih =>
      rw [List.foldl_append, List.foldl_cons, List.foldl_nil] at hsound ⊢
      exact explains_step (ih (sound_of_sound_step hsound)) hsound

/-- Bytes without faults are the bytes of the text read from them. -/
theorem encode_decodeLossy {bytes : List UInt8} (hvalid : isValid bytes = true) :
    encode (decodeLossy bytes) = bytes := by
  have hexplains := explains_foldl_step bytes
  rw [isValid, run, State.finish] at hvalid
  rw [decodeLossy, run, State.finish]
  cases hpending : (bytes.foldl State.step State.initial).pending with
  | none =>
      simp only [hpending] at hvalid ⊢
      obtain ⟨begun, hbytes, hbegun⟩ := hexplains hvalid
      rw [hpending] at hbegun
      subst hbegun
      rw [List.append_nil] at hbytes
      exact hbytes.symm
  | some pending =>
      simp only [hpending] at hvalid
      contradiction

/-- Bytes are without faults exactly if they are the bytes of a text. -/
theorem isValid_iff_exists_encode (bytes : List UInt8) :
    isValid bytes = true ↔ ∃ text, encode text = bytes := by
  constructor
  · intro hvalid
    exact ⟨decodeLossy bytes, encode_decodeLossy hvalid⟩
  · rintro ⟨text, rfl⟩
    exact isValid_encode text

/-- Decoding is the inverse of encoding. -/
theorem decode?_eq_some_iff (bytes : List UInt8) (text : List Char) :
    decode? bytes = some text ↔ encode text = bytes := by
  rw [decode?]
  constructor
  · intro hdecode
    split at hdecode
    · next hvalid =>
        obtain rfl := Option.some.inj hdecode
        exact encode_decodeLossy hvalid
    · contradiction
  · rintro rfl
    rw [if_pos (isValid_encode text), decodeLossy_encode]

/-! ## Every byte is in the text -/

theorem text_finish_first_ne_nil (state : State) (b : UInt8) :
    (state.first b).finish.text ≠ [] := by
  rw [State.first]
  split <;> exact List.cons_ne_nil _ _

/-- A byte gives a character, or a fault, or begins or continues a character that at the end is
a fault. -/
theorem text_finish_step_ne_nil (state : State) (b : UInt8) :
    (state.step b).finish.text ≠ [] := by
  rw [State.step]
  split
  · exact text_finish_first_ne_nil _ b
  · split
    · split <;> exact List.cons_ne_nil _ _
    · exact text_finish_first_ne_nil _ b

/-- Only from no bytes at all is no text read. -/
theorem decodeLossy_ne_nil {bytes : List UInt8} (hne : bytes ≠ []) : decodeLossy bytes ≠ [] := by
  rw [← List.dropLast_concat_getLast hne, decodeLossy, run, List.foldl_append,
    List.reverse_ne_nil_iff]
  exact text_finish_step_ne_nil _ _

end Utf8

end Polyglot
