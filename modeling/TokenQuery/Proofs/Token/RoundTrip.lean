import TokenQuery.Proofs.Token.Shorthand

/-!
Writing tokens and reading them back. Main statement: a token is read back from its rendering
exactly when its name is not empty and no part of it has a colon, and a text reads as a token
exactly when this holds of the token and the text without its blanks and brackets is the signature
(`parse_render_and_signature`).
-/

set_option autoImplicit false

namespace TokenQuery.Token

/-- The name is not empty, and neither the name nor an argument has a colon. -/
structure Legible (token : Token) : Prop where
  named : token.name ≠ ""
  free : ∀ part ∈ token.name :: token.args, ':' ∉ part.toList

variable {text : String} {token : Token}

theorem parse_eq_ok_iff :
    parse text = .ok token ↔
      token.Legible ∧ ∃ body, Text.Trims text.toList body ∧
        Shorthand.Encloses body token.signature.toList := by
  obtain ⟨name, args⟩ := token
  have reads : parse text = .ok ⟨name, args⟩ ↔ Shorthand.split text = .ok (name, args) := by
    unfold parse
    cases Shorthand.split text with
    | error error => simp [bind, Except.bind]
    | ok parts => simp [bind, Except.bind, pure, Except.pure, Prod.ext_iff]
  rw [reads, Shorthand.split_eq_ok_iff]
  constructor
  · rintro ⟨named, free, body, trims, encloses⟩
    exact ⟨⟨named, free⟩, body, trims, encloses⟩
  · rintro ⟨⟨named, free⟩, body, trims, encloses⟩
    exact ⟨named, free, body, trims, encloses⟩

private theorem toList_render (token : Token) :
    token.render.toList = '[' :: token.signature.toList ++ [']'] := by
  rw [render, String.toList_append, String.toList_append]
  rfl

private theorem trims_render (token : Token) :
    Text.Trims token.render.toList token.render.toList := by
  refine ⟨⟨[], [], ?_, nofun, nofun⟩, ?_, ?_⟩
  · rw [List.nil_append, List.append_nil]
  · rw [toList_render]
    rintro c ⟨⟩
    decide
  · rw [toList_render, List.getLast?_concat]
    rintro c ⟨⟩
    decide

private theorem parse_render_iff : parse token.render = .ok token ↔ token.Legible := by
  rw [parse_eq_ok_iff]
  constructor
  · exact fun ⟨legible, _⟩ => legible
  · intro legible
    refine ⟨legible, _, token.trims_render, ?_⟩
    rw [toList_render]
    exact .brackets _

/-- A token is read back from its rendering exactly when it is legible. A text reads as a token
exactly when the token is legible and its signature is what the trimmed text has in its pair of
brackets, or the trimmed text itself when it has no bracket at its ends; such a token is read back
from its rendering. -/
theorem parse_render_and_signature :
    (∀ token : Token, parse token.render = .ok token ↔ token.Legible) ∧
    (∀ (text : String) (token : Token), parse text = .ok token ↔
      token.Legible ∧ ∃ body, Text.Trims text.toList body ∧
        Shorthand.Encloses body token.signature.toList) ∧
    ∀ (text : String) (token : Token), parse text = .ok token →
      parse token.render = .ok token := by
  refine ⟨fun token => parse_render_iff, fun text token => parse_eq_ok_iff, ?_⟩
  intro text token reads
  exact parse_render_iff.mpr (parse_eq_ok_iff.mp reads).1

/-- Brackets in the name, a blank in an argument, and empty arguments. -/
theorem parse_render_of_bracketed :
    parse "\t[[A]: x::] " = .ok ⟨"[A]", [" x", "", ""]⟩ ∧
      parse (Token.mk "[A]" [" x", "", ""]).render = .ok ⟨"[A]", [" x", "", ""]⟩ := by
  have reads : parse "\t[[A]: x::] " = .ok ⟨"[A]", [" x", "", ""]⟩ := by rfl
  exact ⟨reads, parse_render_and_signature.2.2 _ _ reads⟩

end TokenQuery.Token
