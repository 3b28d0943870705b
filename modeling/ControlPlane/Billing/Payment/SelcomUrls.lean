import ControlPlane.Base.Base64

/-!
# The URLs that Selcom gets and gives

`_b64_encode` and `_maybe_b64_decode`, which has to guess whether a URL is encoded.  A text that starts with `http` decodes
to bytes that start with `0x86`, which no text does in UTF-8 that starts with `http`; so it is given back as it is.
-/

namespace ControlPlane

/-- `value.encode("utf-8")`. -/
def utf8 (text : String) : List UInt8 := text.toUTF8.data.toList

/-- `bytes.decode("utf-8")`; `none` is an error. -/
def decodeUtf8 (bytes : List UInt8) : Option String := String.fromUTF8? ⟨bytes.toArray⟩

/-- `base64.b64decode` of a text, which has to be ASCII; `none` is an error. -/
def b64decode (text : String) : Option (List UInt8) :=
  if text.toList.all fun c => c.toNat < 128 then Base64.decode text.toList else none

/-- `text.startswith(("http://", "https://"))`. -/
def startsWithHttp (text : String) : Bool :=
  "http://".toList.isPrefixOf text.toList || "https://".toList.isPrefixOf text.toList

/-- `_b64_encode`. -/
def b64Encode (value : String) : String := if value = "" then "" else String.ofList (Base64.encode (utf8 value))

/-- `_maybe_b64_decode`: after any error the value is given back. -/
def maybeB64Decode (value : String) : String :=
  if value = "" then ""
  else
    match (b64decode value).bind decodeUtf8 with
    | some decoded => if startsWithHttp decoded then decoded else value
    | none => value

/-! ### Bytes of a text -/

theorem decodeUtf8_utf8 (text : String) : decodeUtf8 (utf8 text) = some text := by
  unfold decodeUtf8 utf8
  exact dif_pos text.isValidUTF8

theorem utf8_of_decodeUtf8 {bytes : List UInt8} {text : String} (h : decodeUtf8 bytes = some text) :
    utf8 text = bytes := by
  unfold decodeUtf8 String.fromUTF8? at h
  split at h
  · cases h
    rfl
  · cases h

/-- The first letters of a text that starts with `http`. -/
theorem startsWithHttp_cons {text : String} (h : startsWithHttp text = true) :
    ∃ rest, text.toList = 'h' :: 't' :: rest := by
  unfold startsWithHttp at h
  simp only [Bool.or_eq_true, List.isPrefixOf_iff_prefix] at h
  rcases h with ⟨rest, hrest⟩ | ⟨rest, hrest⟩
  · exact ⟨_, hrest.symm⟩
  · exact ⟨_, hrest.symm⟩

/-- In UTF-8 it starts with an `h`. -/
theorem utf8_of_startsWithHttp {text : String} (h : startsWithHttp text = true) : ∃ rest, utf8 text = 0x68 :: rest := by
  obtain ⟨rest, hrest⟩ := startsWithHttp_cons h
  have htext : text = "h" ++ String.ofList ('t' :: rest) := by
    rw [← String.toList_inj, hrest]
    simp
  refine ⟨utf8 (String.ofList ('t' :: rest)), ?_⟩
  unfold utf8
  rw [htext, String.toUTF8_eq_toByteArray, String.toByteArray_append, ByteArray.data_append, Array.toList_append]
  rfl

/-- As base64 it starts with another byte. -/
theorem b64decode_of_startsWithHttp {text : String} {bytes : List UInt8} (h : startsWithHttp text = true)
    (hdecoded : b64decode text = some bytes) : ∃ rest, bytes = 0x86 :: rest := by
  obtain ⟨rest, hrest⟩ := startsWithHttp_cons h
  unfold b64decode at hdecoded
  split at hdecoded
  · rw [hrest] at hdecoded
    have hfirst : Base64.decode ('h' :: 't' :: rest) = Base64.decodeFrom ⟨2, 13, 0, [0x86]⟩ rest := rfl
    rw [hfirst] at hdecoded
    obtain ⟨tail, htail⟩ := Base64.decodeFrom_prefix hdecoded
    exact ⟨tail, htail.symm⟩
  · cases hdecoded

/-- What is encoded for Selcom is decoded, and a URL that is not encoded is not taken for one that is. -/
theorem selcom_url_round_trip (u : String) (h : startsWithHttp u = true) :
    maybeB64Decode (b64Encode u) = u ∧ maybeB64Decode u = u := by
  obtain ⟨letters, hletters⟩ := startsWithHttp_cons h
  have hne : u ≠ "" := by
    rintro rfl
    cases hletters
  constructor
  · have hencoded : b64Encode u = String.ofList (Base64.encode (utf8 u)) := if_neg hne
    obtain ⟨rest, hrest⟩ := utf8_of_startsWithHttp h
    have hsome : String.ofList (Base64.encode (utf8 u)) ≠ "" := by
      intro hempty
      have hdecoded := Base64.decode_encode (utf8 u)
      rw [← String.toList_eq_nil_iff, String.toList_ofList] at hempty
      rw [hempty, hrest] at hdecoded
      cases hdecoded
    have hascii : ((String.ofList (Base64.encode (utf8 u))).toList.all fun c => c.toNat < 128) = true := by
      rw [String.toList_ofList, List.all_eq_true]
      exact fun c hc => decide_eq_true (Base64.encode_ascii _ c hc)
    unfold maybeB64Decode b64decode
    rw [hencoded, if_neg hsome, if_pos hascii, String.toList_ofList, Base64.decode_encode, Option.bind_some,
      decodeUtf8_utf8]
    exact if_pos h
  · unfold maybeB64Decode
    rw [if_neg hne]
    cases hdecoded : (b64decode u).bind decodeUtf8 with
    | none => rfl
    | some decoded =>
      obtain ⟨bytes, hbytes, htext⟩ := Option.bind_eq_some_iff.1 hdecoded
      obtain ⟨rest, rfl⟩ := b64decode_of_startsWithHttp h hbytes
      dsimp only
      rw [if_neg]
      intro hstarts
      obtain ⟨rest', hrest'⟩ := utf8_of_startsWithHttp hstarts
      rw [utf8_of_decodeUtf8 htext] at hrest'
      cases hrest'

theorem checkout_url_round_trip :
    maybeB64Decode (b64Encode "https://pay.example/Müller?q=日本") = "https://pay.example/Müller?q=日本" ∧
      maybeB64Decode "https://pay.example/Müller?q=日本" = "https://pay.example/Müller?q=日本" :=
  selcom_url_round_trip "https://pay.example/Müller?q=日本" (by decide)

/-- Characters outside the alphabet are passed over, and a padding that is complete ends the text. -/
example : Base64.decode "a_HR.0cA==rest".toList = some [0x68, 0x74, 0x74, 0x70] := by decide

end ControlPlane
