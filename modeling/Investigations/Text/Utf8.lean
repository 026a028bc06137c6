/-
Text as UTF-8 bytes. Decoding accepts exactly what encoding gives, so a list of bytes is the
encoding of at most one text and the two functions undo each other.
-/
namespace Investigations.Utf8

/-- The bytes of a text. -/
def encode (text : String) : List UInt8 :=
  text.toByteArray.data.toList

/-- The text that has these bytes, if they are valid UTF-8: overlong forms, surrogates and numbers
past the last code point are refused. -/
def decode? (bytes : List UInt8) : Option String :=
  String.fromUTF8? ⟨bytes.toArray⟩

theorem decode?_eq_some_iff {bytes : List UInt8} {text : String} :
    decode? bytes = some text ↔ encode text = bytes := by
  unfold decode? encode String.fromUTF8?
  split
  · next h =>
    constructor
    · intro eq
      cases Option.some.inj eq
      rfl
    · rintro rfl
      rfl
  · next h =>
    constructor
    · intro eq
      simp at eq
    · rintro rfl
      exact absurd text.isValidUTF8 h

@[simp] theorem decode?_encode (text : String) : decode? (encode text) = some text :=
  decode?_eq_some_iff.2 rfl

theorem encode_injective {a b : String} (h : encode a = encode b) : a = b := by
  have := decode?_encode a
  rw [h, decode?_encode] at this
  exact (Option.some.inj this).symm

end Investigations.Utf8
