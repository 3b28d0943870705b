import Mathlib.Data.List.Basic

/-!
# Base64

The encoding of bytes with padding, and the lenient decoding that `binascii.a2b_base64` does: characters outside the
alphabet are passed over, a complete padding ends the text, and only a group that is left open is an error.
-/

namespace Base64

def alphabet : List Char := "ABCDEFGHIJKLMNOPQRSTUVWXYZabcdefghijklmnopqrstuvwxyz0123456789+/".toList

/-- The character of six bits. -/
def char (n : Nat) : Char := alphabet.getD n '='

/-- The six bits of a character of the alphabet. -/
def value (c : Char) : Option Nat := if c ∈ alphabet then some (alphabet.idxOf c) else none

def encode : List UInt8 → List Char
  | [] => []
  | [a] => [char (a.toNat / 4), char (a.toNat % 4 * 16), '=', '=']
  | [a, b] => [char (a.toNat / 4), char (a.toNat % 4 * 16 + b.toNat / 16), char (b.toNat % 16 * 4), '=']
  | a :: b :: c :: rest =>
    char (a.toNat / 4) :: char (a.toNat % 4 * 16 + b.toNat / 16) :: char (b.toNat % 16 * 4 + c.toNat / 64) ::
      char (c.toNat % 64) :: encode rest

/-- How many characters of a group of four were read, the bits left over from the last one, the padding since, and the
bytes that are complete. -/
structure State where
  quadPos : Nat
  leftchar : Nat
  pads : Nat
  bytes : List UInt8
  deriving DecidableEq, Repr

def State.start : State := ⟨0, 0, 0, []⟩

/-- Reading six bits.  The bits left over and the new ones do not overlap, so their sum is their union. -/
def State.read (s : State) (bits : Nat) : State :=
  match s.quadPos with
  | 0 => ⟨1, bits, 0, s.bytes⟩
  | 1 => ⟨2, bits % 16, 0, s.bytes ++ [UInt8.ofNat (s.leftchar * 4 + bits / 16)]⟩
  | 2 => ⟨3, bits % 4, 0, s.bytes ++ [UInt8.ofNat (s.leftchar * 16 + bits / 4)]⟩
  | _ => ⟨0, 0, 0, s.bytes ++ [UInt8.ofNat (s.leftchar * 64 + bits)]⟩

def decodeFrom : State → List Char → Option (List UInt8)
  | s, [] => if s.quadPos = 0 then some s.bytes else none
  | s, c :: rest =>
    if c = '=' then
      if 2 ≤ s.quadPos then
        let pads := s.pads + 1
        if 4 ≤ s.quadPos + pads then some s.bytes else decodeFrom { s with pads := pads } rest
      else
        decodeFrom s rest
    else
      match value c with
      | some bits => decodeFrom (s.read bits) rest
      | none => decodeFrom s rest

def decode (text : List Char) : Option (List UInt8) := decodeFrom .start text

/-! ### Characters of the alphabet -/

theorem value_char {n : Nat} (h : n < 64) : value (char n) = some n ∧ char n ≠ '=' ∧ (char n).toNat < 128 := by
  have hall : ∀ n : Fin 64, value (char n) = some n.1 ∧ char n ≠ '=' ∧ (char n).toNat < 128 := by decide +kernel
  exact hall ⟨n, h⟩

theorem decodeFrom_char {s : State} {n : Nat} {rest : List Char} (h : n < 64) :
    decodeFrom s (char n :: rest) = decodeFrom (s.read n) rest := by
  obtain ⟨hvalue, hne, -⟩ := value_char h
  rw [decodeFrom, if_neg hne, hvalue]

/-- An encoding is a text of ASCII characters. -/
theorem encode_ascii (bytes : List UInt8) : ∀ c ∈ encode bytes, c.toNat < 128 := by
  have hchar : ∀ n, n < 64 → (char n).toNat < 128 := fun n h => (value_char h).2.2
  have hpad : '='.toNat < 128 := by decide
  have hnil : ∀ c ∈ ([] : List Char), c.toNat < 128 := fun c hc => by cases hc
  induction bytes using encode.induct with
  | case1 => exact hnil
  | case2 a =>
    have ha := a.toNat_lt
    simp only [encode, List.forall_mem_cons]
    exact ⟨hchar _ (by omega), hchar _ (by omega), hpad, hpad, hnil⟩
  | case3 a b =>
    have ha := a.toNat_lt
    have hb := b.toNat_lt
    simp only [encode, List.forall_mem_cons]
    exact ⟨hchar _ (by omega), hchar _ (by omega), hchar _ (by omega), hpad, hnil⟩
  | case4 a b c rest ih =>
    have ha := a.toNat_lt
    have hb := b.toNat_lt
    have hc := c.toNat_lt
    simp only [encode, List.forall_mem_cons]
    exact ⟨hchar _ (by omega), hchar _ (by omega), hchar _ (by omega), hchar _ (by omega), ih⟩

/-! ### Decoding what was encoded -/

theorem ofNat_eq {n : Nat} {a : UInt8} (h : n = a.toNat) : UInt8.ofNat n = a := by
  rw [h, UInt8.ofNat_toNat]

theorem decodeFrom_encode (done bytes : List UInt8) : decodeFrom ⟨0, 0, 0, done⟩ (encode bytes) = some (done ++ bytes) := by
  induction bytes using encode.induct generalizing done with
  | case1 => simp [encode, decodeFrom]
  | case2 a =>
    have ha := a.toNat_lt
    have hfirst : UInt8.ofNat (a.toNat / 4 * 4 + a.toNat % 4 * 16 / 16) = a := ofNat_eq (by omega)
    rw [encode, decodeFrom_char (by omega), decodeFrom_char (by omega)]
    simp only [State.read, hfirst]
    simp [decodeFrom]
  | case3 a b =>
    have ha := a.toNat_lt
    have hb := b.toNat_lt
    have hfirst : UInt8.ofNat (a.toNat / 4 * 4 + (a.toNat % 4 * 16 + b.toNat / 16) / 16) = a := ofNat_eq (by omega)
    have hsecond : UInt8.ofNat ((a.toNat % 4 * 16 + b.toNat / 16) % 16 * 16 + b.toNat % 16 * 4 / 4) = b :=
      ofNat_eq (by omega)
    rw [encode, decodeFrom_char (by omega), decodeFrom_char (by omega), decodeFrom_char (by omega)]
    simp only [State.read, hfirst, hsecond]
    simp [decodeFrom]
  | case4 a b c rest ih =>
    have ha := a.toNat_lt
    have hb := b.toNat_lt
    have hc := c.toNat_lt
    have hfirst : UInt8.ofNat (a.toNat / 4 * 4 + (a.toNat % 4 * 16 + b.toNat / 16) / 16) = a := ofNat_eq (by omega)
    have hsecond : UInt8.ofNat
        ((a.toNat % 4 * 16 + b.toNat / 16) % 16 * 16 + (b.toNat % 16 * 4 + c.toNat / 64) / 4) = b := ofNat_eq (by omega)
    have hthird : UInt8.ofNat ((b.toNat % 16 * 4 + c.toNat / 64) % 4 * 64 + c.toNat % 64) = c := ofNat_eq (by omega)
    rw [encode, decodeFrom_char (by omega), decodeFrom_char (by omega), decodeFrom_char (by omega),
      decodeFrom_char (by omega)]
    simp only [State.read, hfirst, hsecond, hthird]
    rw [ih]
    simp

theorem decode_encode (bytes : List UInt8) : decode (encode bytes) = some bytes := decodeFrom_encode [] bytes

/-! ### What is complete -/

theorem State.read_prefix (s : State) (bits : Nat) : s.bytes <+: (s.read bits).bytes := by
  unfold State.read
  split
  · exact List.prefix_rfl
  · exact List.prefix_append ..
  · exact List.prefix_append ..
  · exact List.prefix_append ..

/-- The bytes that are complete stay in front. -/
theorem decodeFrom_prefix {s : State} {text : List Char} {bytes : List UInt8} (h : decodeFrom s text = some bytes) :
    s.bytes <+: bytes := by
  induction text generalizing s with
  | nil =>
    rw [decodeFrom] at h
    split at h
    · cases h
      exact List.prefix_rfl
    · cases h
  | cons c rest ih =>
    rw [decodeFrom] at h
    split at h
    · split at h
      · dsimp only at h
        split at h
        · cases h
          exact List.prefix_rfl
        · exact @ih { s with pads := s.pads + 1 } h
      · exact ih h
    · split at h
      · exact (s.read_prefix _).trans (ih h)
      · exact ih h

end Base64
