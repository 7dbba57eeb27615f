import Bigstar.Lib.CText
import Mathlib.Data.List.Basic

/-!
# UTF-8 over lists of bytes

The encoding of a text and its inverse, which refuses bytes that encode no text. The lemmas say
where an encoded text can be cut: a cut is between two characters as soon as one side of it is a
text, or as soon as the byte behind it is the first byte of a character.
-/

namespace Utf8

open CText

/-- The bytes of a text. -/
def encode (text : Text) : List UInt8 := text.flatMap String.utf8EncodeChar

/-- The text that is encoded by the bytes, if there is one. -/
def decode (bytes : List UInt8) : Option Text := bytes.toByteArray.utf8Decode?.map Array.toList

@[simp]
theorem encode_nil : encode [] = [] := rfl

theorem encode_cons (c : Char) (text : Text) :
    encode (c :: text) = String.utf8EncodeChar c ++ encode text := rfl

@[simp]
theorem encode_append (text text' : Text) : encode (text ++ text') = encode text ++ encode text' :=
  List.flatMap_append

theorem encode_ne_nil {text : Text} (h : text ≠ []) : encode text ≠ [] := by
  cases text with
  | nil => exact absurd rfl h
  | cons c text =>
    rw [encode_cons]
    exact List.append_ne_nil_of_left_ne_nil String.utf8EncodeChar_ne_nil _

@[simp]
theorem decode_encode (text : Text) : decode (encode text) = some text := by
  change (text.utf8Encode.utf8Decode?).map Array.toList = _
  rw [List.utf8Decode?_utf8Encode, Option.map_some]

theorem decode_eq_some_iff {bytes : List UInt8} {text : Text} : decode bytes = some text ↔
    bytes = encode text := by
  constructor
  · intro h
    obtain ⟨chars, hchars, rfl⟩ := Option.map_eq_some_iff.mp h
    have hencode := ByteArray.utf8Encode_get_utf8Decode?
      (b := bytes.toByteArray) (h := hchars ▸ rfl)
    simp only [hchars, Option.get_some] at hencode
    exact (List.toByteArray_inj.mp hencode).symm
  · rintro rfl
    exact decode_encode text

theorem encode_injective : Function.Injective encode := by
  intro text text' h
  have hdecode := decode_encode text
  rw [h, decode_encode] at hdecode
  exact (Option.some.inj hdecode).symm

/-- Behind a text, the bytes are read on their own. -/
theorem decode_encode_append (text : Text) (bytes : List UInt8) :
    decode (encode text ++ bytes) = (decode bytes).map (text ++ ·) := by
  induction text with
  | nil =>
    rw [encode_nil, List.nil_append]
    exact (congrFun Option.map_id _).symm
  | cons c text ih =>
    have hsingle := ByteArray.utf8Decode?_utf8Encode_singleton_append (c := c)
      (l := (encode text ++ bytes).toByteArray)
    have hbytes : [c].utf8Encode ++ (encode text ++ bytes).toByteArray
        = (encode (c :: text) ++ bytes).toByteArray := by
      rw [encode_cons, List.append_assoc, List.toByteArray_append (l := String.utf8EncodeChar c),
        List.utf8Encode_singleton]
    rw [hbytes] at hsingle
    unfold decode at ih ⊢
    rw [hsingle, Option.map_map]
    have hcons : (Array.toList ∘ fun chars : Array Char => #[c] ++ chars) =
        (c :: ·) ∘ Array.toList := by
      funext chars
      simp
    rw [hcons, ← Option.map_map, ih, Option.map_map]
    rfl

/-- The rest of a text behind a text is a text. -/
theorem exists_of_encode_append {text whole : Text} {bytes : List UInt8}
    (h : encode text ++ bytes = encode whole) :
    ∃ rest, bytes = encode rest ∧ whole = text ++ rest := by
  have hdecode := decode_encode_append text bytes
  rw [h, decode_encode] at hdecode
  obtain ⟨rest, hrest, hwhole⟩ := Option.map_eq_some_iff.mp hdecode.symm
  exact ⟨rest, decode_eq_some_iff.mp hrest, hwhole.symm⟩

/-- A character is encoded by its first byte and by bytes that are not first bytes. -/
theorem encodeChar_eq_cons (c : Char) :
    ∃ b bytes, String.utf8EncodeChar c = b :: bytes ∧ b.IsUTF8FirstByte ∧
    ∀ b' ∈ bytes, ¬ b'.IsUTF8FirstByte := by
  obtain ⟨b, bytes, hcons⟩ := List.exists_cons_of_ne_nil (String.utf8EncodeChar_ne_nil (c := c))
  have hfirst : ∀ (i : Nat) (b' : UInt8), (b :: bytes)[i]? = some b' →
      (b'.IsUTF8FirstByte ↔ i = 0) := by
    intro i b' hget
    rw [← hcons] at hget
    obtain ⟨hi, rfl⟩ := List.getElem?_eq_some_iff.mp hget
    exact UInt8.isUTF8FirstByte_getElem_utf8EncodeChar
  refine ⟨b, bytes, hcons, (hfirst 0 b rfl).mpr rfl, fun b' hmem hb' => ?_⟩
  obtain ⟨i, hi⟩ := List.mem_iff_getElem?.mp hmem
  exact absurd ((hfirst (i + 1) b' hi).mp hb') (Nat.succ_ne_zero i)

/-- The first byte of a text is the first byte of a character. -/
theorem isUTF8FirstByte_head {text : Text} {b : UInt8} {bytes : List UInt8}
    (h : encode text = b :: bytes) :
    b.IsUTF8FirstByte := by
  cases text with
  | nil => exact nomatch h
  | cons c text =>
    obtain ⟨b', bytes', hchar, hfirst, -⟩ := encodeChar_eq_cons c
    rw [encode_cons, hchar] at h
    obtain ⟨rfl, -⟩ := List.cons.inj h
    exact hfirst

/-- A cut in front of the first byte of a character is a cut between two characters. -/
theorem exists_of_append_firstByte {text : Text} {left right : List UInt8} {b : UInt8}
    (h : left ++ b :: right = encode text) (hb : b.IsUTF8FirstByte) :
    ∃ t t', left = encode t ∧ b :: right = encode t' ∧ text = t ++ t' := by
  induction text generalizing left with
  | nil => exact absurd h (by simp)
  | cons c text ih =>
    obtain ⟨first, bytes, hchar, -, hrest⟩ := encodeChar_eq_cons c
    cases left with
    | nil => exact ⟨[], c :: text, rfl, h, rfl⟩
    | cons b' left =>
      rw [encode_cons, hchar, List.cons_append, List.cons_append] at h
      obtain ⟨rfl, htail⟩ := List.cons.inj h
      obtain ⟨middle, hbytes, hright⟩ | ⟨left', hleft, htext⟩ := List.append_eq_append_iff.mp htail
      · -- The cut would be within the character, or behind it.
        cases middle with
        | nil =>
          rw [List.append_nil] at hbytes
          refine ⟨[c], text, ?_, hright, rfl⟩
          rw [encode_cons, hchar, hbytes]
          simp
        | cons b'' middle =>
          obtain ⟨rfl, -⟩ := List.cons.inj hright
          exact absurd hb (hrest b (hbytes ▸ List.mem_append_right left List.mem_cons_self))
      · obtain ⟨t, t', hleft', hright, rfl⟩ := ih htext.symm
        refine ⟨c :: t, t', ?_, hright, rfl⟩
        rw [encode_cons, hchar, hleft, hleft']
        rfl

/-- What is in front of a text within a text is a text. -/
theorem exists_of_append_encode {text whole : Text} {bytes : List UInt8}
    (h : bytes ++ encode text = encode whole) :
    ∃ front, bytes = encode front ∧ whole = front ++ text := by
  cases hbytes : encode text with
  | nil =>
    rw [hbytes, List.append_nil] at h
    have htext : text = [] := by
      by_contra hne
      exact encode_ne_nil hne hbytes
    exact ⟨whole, h, by rw [htext, List.append_nil]⟩
  | cons b rest =>
    have hfirst := isUTF8FirstByte_head hbytes
    rw [hbytes] at h
    obtain ⟨front, text', hfront, htext', hwhole⟩ := exists_of_append_firstByte h hfirst
    refine ⟨front, hfront, ?_⟩
    rw [hwhole, encode_injective (htext'.symm.trans hbytes.symm)]

/-- What is behind a text that is not empty within a text is a text. -/
theorem exists_of_append_encode_append {text whole : Text}
    {left right : List UInt8} (hne : text ≠ [])
    (h : left ++ (encode text ++ right) = encode whole) :
    ∃ rest, right = encode rest := by
  cases hbytes : encode text with
  | nil => exact absurd hbytes (encode_ne_nil hne)
  | cons b rest =>
    have hfirst := isUTF8FirstByte_head hbytes
    have h' : left ++ b :: (rest ++ right) = encode whole := by
      rw [← h, hbytes]
      rfl
    obtain ⟨front, back, -, hback, -⟩ := exists_of_append_firstByte h' hfirst
    have htext : encode text ++ right = encode back := by
      rw [hbytes, ← hback]
      rfl
    obtain ⟨rest, hright, -⟩ := exists_of_encode_append htext
    exact ⟨rest, hright⟩

end Utf8
