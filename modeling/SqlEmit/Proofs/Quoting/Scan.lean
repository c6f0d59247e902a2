import SqlEmit.Text

/-! Quotes and parentheses of SQL text. A text is read from left to right with SQL quoting; a text
that nests leaves the reader where it found it, so texts that nest can be put together. -/
namespace SqlEmit.Text

/-- Where a reader of SQL text stands. -/
structure Place where
  quoted : Bool
  /-- Open parentheses outside quotes. -/
  depth : Nat
  deriving DecidableEq

/-- Reads a text. Inside quotes two quotes are a quote character and a single one closes;
parentheses count outside quotes only, and one that closes nothing ends the reading. -/
def scan : Place → List Char → Option Place
  | place, [] => some place
  | ⟨true, depth⟩, '\x27' :: '\x27' :: cs => scan ⟨true, depth⟩ cs
  | ⟨true, depth⟩, c :: cs => scan ⟨c ≠ '\x27', depth⟩ cs
  | ⟨false, depth⟩, c :: cs =>
    if c = '\x27' then scan ⟨true, depth⟩ cs
    else if c = '(' then scan ⟨false, depth + 1⟩ cs
    else if c = ')' then
      match depth with
      | 0 => none
      | depth + 1 => scan ⟨false, depth⟩ cs
    else scan ⟨false, depth⟩ cs

/-- The place behind one character, where every quote opens or closes. -/
def Place.next (place : Place) (c : Char) : Option Place :=
  if c = '\x27' then some ⟨!place.quoted, place.depth⟩
  else if place.quoted then some place
  else if c = '(' then some ⟨false, place.depth + 1⟩
  else if c = ')' then
    match place.depth with
    | 0 => none
    | depth + 1 => some ⟨false, depth⟩
  else some place

/-- Two quotes inside quotes close and open again, with nothing between them. -/
theorem scan_eq_foldlM (place : Place) (cs : List Char) : scan place cs = cs.foldlM Place.next place := by
  fun_induction scan place cs with
  | case1 place => rfl
  | case2 depth cs ih => simpa [Place.next] using ih
  | case3 depth c cs _ ih =>
    by_cases quote : c = '\x27' <;> simpa [Place.next, quote] using ih
  | case4 depth cs ih => simpa [Place.next] using ih
  | case5 depth cs _ ih => simpa [Place.next] using ih
  | case6 => simp [Place.next]
  | case7 cs _ _ depth ih => simpa [Place.next] using ih
  | case8 depth c cs quote opens closes ih => simpa [Place.next, quote, opens, closes] using ih

def Leads (start stop : Place) (text : String) : Prop :=
  scan start text.toList = some stop

theorem Leads.append {a b c : Place} {first second : String} (left : Leads a b first)
    (right : Leads b c second) : Leads a c (first ++ second) := by
  unfold Leads at *
  rw [scan_eq_foldlM] at *
  rw [String.toList_append, List.foldlM_append, left]
  exact right

/-- Neither a quote nor a parenthesis. -/
def IsPlain (c : Char) : Prop :=
  c ≠ '\x27' ∧ c ≠ '(' ∧ c ≠ ')'

instance : DecidablePred IsPlain :=
  fun _ => inferInstanceAs (Decidable (_ ∧ _))

def Clean (text : String) : Prop :=
  ∀ c ∈ text.toList, IsPlain c

instance : DecidablePred Clean :=
  fun text => List.decidableBAll IsPlain text.toList

theorem clean_ofList {cs : List Char} : Clean (String.ofList cs) ↔ ∀ c ∈ cs, IsPlain c := by
  rw [Clean, String.toList_ofList]

theorem Clean.append {a b : String} (left : Clean a) (right : Clean b) : Clean (a ++ b) := by
  intro c mem
  rw [String.toList_append, List.mem_append] at mem
  exact mem.elim (left c) (right c)

/-- A clean text changes nothing, be it inside quotes or outside. -/
theorem Clean.leads {text : String} (clean : Clean text) (place : Place) : Leads place place text := by
  rw [Leads, scan_eq_foldlM]
  rw [Clean] at clean
  generalize text.toList = cs at clean
  induction cs with
  | nil => rfl
  | cons c cs ih =>
    obtain ⟨quote, opens, closes⟩ := clean c (by simp)
    have stays : place.next c = some place := by simp [Place.next, quote, opens, closes]
    rw [List.foldlM_cons, stays]
    exact ih fun d mem => clean d (List.mem_cons_of_mem c mem)

/-- Outside quotes the text leads back to where it starts. -/
def Nests (text : String) : Prop :=
  ∀ depth, Leads ⟨false, depth⟩ ⟨false, depth⟩ text

theorem Clean.nests {text : String} (clean : Clean text) : Nests text :=
  fun depth => clean.leads ⟨false, depth⟩

theorem Nests.append {a b : String} (left : Nests a) (right : Nests b) : Nests (a ++ b) :=
  fun depth => (left depth).append (right depth)

theorem Nests.enclosed {a inner b : String} (opens : ∀ depth, Leads ⟨false, depth⟩ ⟨false, depth + 1⟩ a)
    (nests : Nests inner) (closes : ∀ depth, Leads ⟨false, depth + 1⟩ ⟨false, depth⟩ b) :
    Nests (a ++ inner ++ b) :=
  fun depth => ((opens depth).append (nests (depth + 1))).append (closes depth)

/-- Whatever the value is, its quoted form nests. -/
theorem nests_quote (value : String) : Nests (quote value) := by
  intro depth
  have body : Leads ⟨true, depth⟩ ⟨true, depth⟩ (escapeQuotes value) := by
    rw [Leads, scan_eq_foldlM, escapeQuotes, String.toList_ofList]
    induction value.toList with
    | nil => rfl
    | cons c cs ih =>
      by_cases quote : c = '\x27' <;> simpa [doubleQuotes, quote, Place.next] using ih
  have opens : Leads ⟨false, depth⟩ ⟨true, depth⟩ "'" := rfl
  have closes : Leads ⟨true, depth⟩ ⟨false, depth⟩ "'" := rfl
  exact (opens.append body).append closes

theorem Place.next_deeper {start stop : Place} {c : Char} (more : Nat) (step : start.next c = some stop) :
    Place.next ⟨start.quoted, start.depth + more⟩ c = some ⟨stop.quoted, stop.depth + more⟩ := by
  obtain ⟨quoted, depth⟩ := start
  by_cases quote : c = '\x27'
  · obtain rfl : ⟨!quoted, depth⟩ = stop := by simpa [Place.next, quote] using step
    simp [Place.next, quote]
  cases quoted with
  | true =>
    obtain rfl : ⟨true, depth⟩ = stop := by simpa [Place.next, quote] using step
    simp [Place.next, quote]
  | false =>
    by_cases opens : c = '('
    · obtain rfl : ⟨false, depth + 1⟩ = stop := by simpa [Place.next, opens] using step
      simp [Place.next, opens, Nat.add_right_comm]
    by_cases closes : c = ')'
    · cases depth with
      | zero => simp [Place.next, closes] at step
      | succ depth =>
        obtain rfl : ⟨false, depth⟩ = stop := by simpa [Place.next, closes] using step
        simp [Place.next, closes, Nat.add_right_comm]
    · obtain rfl : ⟨false, depth⟩ = stop := by simpa [Place.next, quote, opens, closes] using step
      simp [Place.next, quote, opens, closes]

/-- Reading at a greater depth differs in the depth only. -/
theorem scan_deeper {start stop : Place} {cs : List Char} (more : Nat) (read : scan start cs = some stop) :
    scan ⟨start.quoted, start.depth + more⟩ cs = some ⟨stop.quoted, stop.depth + more⟩ := by
  rw [scan_eq_foldlM] at *
  induction cs generalizing start with
  | nil =>
    obtain rfl : start = stop := by simpa using read
    rfl
  | cons c cs ih =>
    rw [List.foldlM_cons] at *
    obtain ⟨place, step, rest⟩ := Option.bind_eq_some_iff.mp read
    rw [Place.next_deeper more step]
    exact ih rest

theorem nests_iff {text : String} : Nests text ↔ scan ⟨false, 0⟩ text.toList = some ⟨false, 0⟩ :=
  ⟨fun nests => nests 0, fun read depth => by simpa [Leads] using scan_deeper depth read⟩

instance : DecidablePred Nests :=
  fun _ => decidable_of_iff' _ nests_iff

end SqlEmit.Text
