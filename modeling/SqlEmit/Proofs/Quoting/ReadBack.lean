import SqlEmit.Proofs.Query

/-! String literals are read back as their values. Quotes inside a value are doubled, so the closing
quote is the first one that stands alone; what follows the literal must not put another quote next to
it. -/
namespace SqlEmit

namespace Text

/-- Reading a doubled text gives its characters and goes on behind it. -/
theorem readQuoted_doubleQuotes (value cs : List Char) :
    readQuoted (doubleQuotes value ++ cs) =
      (readQuoted cs).map fun (more, rest) => (value ++ more, rest) := by
  induction value with
  | nil => simp [doubleQuotes]
  | cons c value ih =>
    by_cases quote : c = '\x27' <;> simp [doubleQuotes, quote, readQuoted, ih, Function.comp_def]

theorem readQuoted_closing {cs : List Char} (alone : cs.head? ≠ some '\x27') :
    readQuoted ('\x27' :: cs) = some ([], cs) := by
  cases cs with
  | nil => rfl
  | cons c cs =>
    have other : c ≠ '\x27' := by simpa using alone
    simp [readQuoted, other]

theorem readQuoted_pair (cs : List Char) :
    readQuoted ('\x27' :: '\x27' :: cs) =
      (readQuoted cs).map fun (value, rest) => ('\x27' :: value, rest) := rfl

/-- The quote behind a doubled text closes it exactly if no other quote follows. -/
theorem readQuoted_eq_some_iff (value cs : List Char) :
    readQuoted (doubleQuotes value ++ '\x27' :: cs) = some (value, cs) ↔
      cs.head? ≠ some '\x27' := by
  rw [readQuoted_doubleQuotes]
  constructor
  · rintro read first
    -- A second quote would belong to the value, which is then longer than the one written.
    obtain ⟨more, rfl⟩ := List.head?_eq_some_iff.mp first
    simp [readQuoted_pair] at read
  · intro alone
    simp [readQuoted_closing alone]

/-- The first string of a text: its value, and what stands behind its closing quote. -/
def firstString (text : String) : Option (String × String) :=
  (readQuoted ((text.toList.dropWhile (· ≠ '\x27')).drop 1)).map fun (value, rest) =>
    (String.ofList value, String.ofList rest)

theorem firstString_quote {front : String} (plain : ∀ c ∈ front.toList, c ≠ '\x27')
    (value rest : String) :
    firstString (front ++ quote value ++ rest) = some (value, rest) ↔
      rest.toList.head? ≠ some '\x27' := by
  have opening : (front ++ quote value ++ rest).toList =
      front.toList ++ '\x27' :: (doubleQuotes value.toList ++ '\x27' :: rest.toList) := by
    simp [quote, escapeQuotes]
  have skipped : ((front ++ quote value ++ rest).toList.dropWhile (· ≠ '\x27')).drop 1 =
      doubleQuotes value.toList ++ '\x27' :: rest.toList := by
    rw [opening, List.dropWhile_append_of_pos (by simpa using plain)]
    simp
  rw [← readQuoted_eq_some_iff value.toList rest.toList, firstString, skipped]
  constructor
  · intro read
    obtain ⟨⟨chars, after⟩, found, same⟩ := Option.map_eq_some_iff.mp read
    obtain ⟨rfl, rfl⟩ := Prod.mk.inj same
    simpa using found
  · intro read
    simp [read]

end Text

namespace Sql

/-- What stands in front of the quoted value and behind it. -/
theorem text_string (dialect : Dialect) (value : String) :
    (string dialect value).text =
      dialect.pick "" "CAST(" ++ Text.quote value ++ dialect.pick "" " AS mvarchar)" := by
  have quoted : (ofPiece (.quoted value)).text = Text.quote value := by
    simp [ofPiece, text, Piece.text]
  cases dialect with
  | sqlServer => simp [string, Dialect.pick, quoted]
  | postgres => simp [string, Dialect.pick, cast, quoted, String.append_assoc]

/-- In front of any text that does not start with a quote, a string literal is read as its value, up to
the closing quote that was written; so two values never have the same literal. On PostgreSQL the
closing quote is followed by the type, so any text may come behind the literal. -/
theorem string_read_back (dialect : Dialect) (value rest other : String) :
    (Text.firstString ((string dialect value).text ++ rest) =
        some (value, dialect.pick "" " AS mvarchar)" ++ rest) ↔
      dialect = .postgres ∨ rest.toList.head? ≠ some '\x27') ∧
    ((string dialect other).text = (string dialect value).text ↔ other = value) := by
  have front : ∀ c ∈ (dialect.pick "" "CAST(").toList, c ≠ '\x27' := by
    cases dialect <;> simp [Dialect.pick]
  have read (value rest : String) :
      Text.firstString ((string dialect value).text ++ rest) =
          some (value, dialect.pick "" " AS mvarchar)" ++ rest) ↔
        dialect = .postgres ∨ rest.toList.head? ≠ some '\x27' := by
    rw [text_string, String.append_assoc, Text.firstString_quote front]
    cases dialect <;> simp [Dialect.pick]
  refine ⟨read value rest, fun same => ?_, fun same => by rw [same]⟩
  -- The literal alone is read as both values.
  have first := (read value "").mpr (.inr (by simp))
  have second := (read other "").mpr (.inr (by simp))
  rw [same] at second
  exact (Prod.mk.inj (Option.some.inj (second.symm.trans first))).1

end Sql

end SqlEmit
