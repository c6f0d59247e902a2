import SqlEmit.Json.Token

/-! Reading a JSON text. The containers that are still open form a stack; a token either opens or
closes a container, or takes its place in the innermost one. -/
namespace SqlEmit.Json

/-- An open container; its parts are kept last one first. -/
inductive Frame where
  | arr (items : List Json)
  | obj (members : List (Spelling × Json)) (name : Spelling)

inductive Reading where
  | value (stack : List Frame)
  /-- After an opening bracket. -/
  | item (stack : List Frame)
  /-- After an opening brace. -/
  | name (stack : List Frame)
  | nextName (members : List (Spelling × Json)) (stack : List Frame)
  | colon (members : List (Spelling × Json)) (name : Spelling) (stack : List Frame)
  | afterItem (items : List Json) (stack : List Frame)
  | afterMember (members : List (Spelling × Json)) (stack : List Frame)
  | done (value : Json)

def ofSpelling (spelling : Spelling) : Json :=
  if spelling.wellFormed then .str spelling.value else .illFormed

/-- The object with these members, which are given last one first. -/
def ofMembers (members : List (Spelling × Json)) : Json :=
  if members.all (·.1.wellFormed) then
    .obj (members.reverse.map fun (name, value) => (name.value, value)) (members.all (·.1.plain))
  else .illFormed

/-- A value is complete and takes its place in the innermost open container. -/
def close (value : Json) : List Frame → Reading
  | [] => .done value
  | .arr items :: stack => .afterItem (value :: items) stack
  | .obj members name :: stack => .afterMember ((name, value) :: members) stack

def readValue (stack : List Frame) : Token → Option Reading
  | .null => some (close .null stack)
  | .bool b => some (close (.bool b) stack)
  | .int n => some (close (.int n) stack)
  | .real t => some (close (.real t) stack)
  | .str spelling => some (close (ofSpelling spelling) stack)
  | .openBracket => some (.item stack)
  | .openBrace => some (.name stack)
  | _ => none

def readStep : Reading → Token → Option Reading
  | .value stack, token => readValue stack token
  | .item stack, .closeBracket => some (close (.arr []) stack)
  | .item stack, token => readValue (.arr [] :: stack) token
  | .name stack, .closeBrace => some (close (.obj []) stack)
  | .name stack, .str name => some (.colon [] name stack)
  | .name _, _ => none
  | .nextName members stack, .str name => some (.colon members name stack)
  | .nextName _ _, _ => none
  | .colon members name stack, .colon => some (.value (.obj members name :: stack))
  | .colon _ _ _, _ => none
  | .afterItem items stack, .comma => some (.value (.arr items :: stack))
  | .afterItem items stack, .closeBracket => some (close (.arr items.reverse) stack)
  | .afterItem _ _, _ => none
  | .afterMember members stack, .comma => some (.nextName members stack)
  | .afterMember members stack, .closeBrace => some (close (ofMembers members) stack)
  | .afterMember _ _, _ => none
  | .done _, _ => none

def ofTokens (tokens : List Token) : Option Json :=
  match tokens.foldlM readStep (.value []) with
  | some (.done value) => some value
  | _ => none

def parse (text : String) : Option Json :=
  (scan text.toList).bind ofTokens

end SqlEmit.Json
