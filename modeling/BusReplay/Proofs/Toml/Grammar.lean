import BusReplay.Proofs.Toml.Rest

/-!
# The layout of arrays, inline tables and documents

Arrays and inline tables list their members between brackets, and documents have one statement on a
line. The readers of these lists find exactly what is laid out so. Between the members of a list,
and between statements, there may be whatever counts for nothing.
-/

namespace BusReplay.Toml

variable {α : Type}

/-- What a reader finds at the front of a text, and what it leaves. -/
def Reads (read : List Char → Option (α × List Char)) (a : α) (cs rest : List Char) : Prop :=
  read cs = some (a, rest)

/-- The members of a list with commas between them, and the character that closes the list. A comma
may stand behind the last member. -/
inductive Members (closing : Char) (IsMember : α → List Char → List Char → Prop) :
    List α → List Char → List Char → Prop
  | close {cs rest : List Char} (hclose : skipTrivia false cs = some (closing :: rest)) :
    Members closing IsMember [] cs rest
  | last {a : α} {cs first behind rest : List Char} (htrivia : skipTrivia false cs = some first)
    (hfirst : first.head? ≠ some closing) (hmember : IsMember a first behind)
    (hclose : skipTrivia false behind = some (closing :: rest)) :
    Members closing IsMember [a] cs rest
  | more {a : α} {as : List α} {cs first behind next rest : List Char}
    (htrivia : skipTrivia false cs = some first) (hfirst : first.head? ≠ some closing)
    (hmember : IsMember a first behind) (hcomma : skipTrivia false behind = some (',' :: next))
    (h : Members closing IsMember as next rest) : Members closing IsMember (a :: as) cs rest

/-- A member of a list is known by what ends it as well: a comma or the end of the list. -/
theorem Members.mono {closing : Char} {IsMember IsOther : α → List Char → List Char → Prop}
    {as : List α} {cs rest : List Char}
    (hmono : ∀ a first behind c next, IsMember a first behind →
      skipTrivia false behind = some (c :: next) → c = ',' ∨ c = closing → IsOther a first behind)
    (h : Members closing IsMember as cs rest) : Members closing IsOther as cs rest := by
  induction h with
  | close hclose => exact .close hclose
  | last htrivia hfirst hmember hclose =>
    exact .last htrivia hfirst (hmono _ _ _ _ _ hmember hclose (.inr rfl)) hclose
  | more htrivia hfirst hmember hcomma _ ih =>
    exact .more htrivia hfirst (hmono _ _ _ _ _ hmember hcomma (.inl rfl)) hcomma ih

/-! ## The reader of lists -/

variable {closing : Char} {item : List Char → Option (α × List Char)} {fuel : Nat}
  {cs rest : List Char}

theorem shortens_readMembers (hitem : Shortens item) (fuel : Nat) :
    Shortens (readMembers closing item fuel) := by
  induction fuel with
  | zero => nofun
  | succ fuel ih =>
    intro cs as rest h
    simp only [readMembers, Option.bind_eq_bind, Option.bind_eq_some_iff] at h
    obtain ⟨first, hfirst, h⟩ := h
    have htrivia := length_skipTrivia hfirst
    split at h
    · grind
    · obtain ⟨⟨a, behind⟩, ha, next, hnext, h⟩ := by simpa only [Option.bind_eq_some_iff] using h
      have hbehind := hitem _ _ _ ha
      have hmore := length_skipTrivia hnext
      split at h
      · obtain ⟨⟨as, remaining⟩, has, h⟩ := Option.bind_eq_some_iff.1 h
        have hrest := ih _ _ _ has
        grind
      · grind

/-- A list that is laid out is read, if the fuel is greater than what is there to read. -/
theorem readMembers_of_members (hitem : Shortens item) {as : List α}
    (h : Members closing (Reads item) as cs rest) (hclosing : closing ≠ ',')
    (hfuel : cs.length < fuel) : readMembers closing item fuel cs = some (as, rest) := by
  induction h generalizing fuel with
  | close hclose =>
    obtain ⟨fuel, rfl⟩ := Nat.exists_eq_add_one_of_ne_zero (Nat.ne_zero_of_lt hfuel)
    simp [readMembers, hclose]
  | last htrivia hfirst hmember hclose =>
    obtain ⟨fuel, rfl⟩ := Nat.exists_eq_add_one_of_ne_zero (Nat.ne_zero_of_lt hfuel)
    rw [Reads] at hmember
    simp [readMembers, htrivia, hfirst, hmember, hclose, hclosing]
  | more htrivia hfirst hmember hcomma _ ih =>
    obtain ⟨fuel, rfl⟩ := Nat.exists_eq_add_one_of_ne_zero (Nat.ne_zero_of_lt hfuel)
    have hstart := length_skipTrivia htrivia
    have hbehind := hitem _ _ _ hmember
    have hnext := length_skipTrivia hcomma
    rw [List.length_cons] at hnext
    rw [Reads] at hmember
    simp [readMembers, htrivia, hfirst, hmember, hcomma, @ih fuel (by omega)]

/-! ## Values -/

theorem shortens_inlinePair {item : List Char → Option (Value × List Char)}
    (hitem : Shortens item) : Shortens (inlinePair item) := by
  intro cs pair rest h
  simp only [inlinePair, Option.bind_eq_bind, Option.bind_eq_some_iff] at h
  obtain ⟨⟨parts, behind⟩, hparts, next, hnext, h⟩ := h
  have hkey := shortens_key _ _ _ hparts
  have hblanks := length_skipTrivia hnext
  split at h
  · obtain ⟨first, hfirst, ⟨v, remaining⟩, hv, h⟩ := by
      simpa only [Option.bind_eq_some_iff] using h
    have hmore := length_skipTrivia hfirst
    have hread := hitem _ _ _ hv
    grind
  · cases h

theorem shortens_flatValue : Shortens flatValue := by
  have htext : Shortens fun cs ↦
      (anyString cs).bind fun read ↦ some (Value.string (.ofList read.1), read.2) := by
    intro cs v rest h
    obtain ⟨⟨text, remaining⟩, htext, h⟩ := Option.bind_eq_some_iff.1 h
    have hread := shortens_anyString _ _ _ htext
    grind
  intro cs v rest h
  unfold flatValue at h
  split at h
  · exact htext _ _ _ h
  · exact htext _ _ _ h
  · exact shortens_scalar _ _ _ h

theorem shortens_value (depth : Nat) : Shortens (value depth) := by
  induction depth with
  | zero =>
    intro cs v rest h
    unfold value at h
    split at h
    · cases h
    · cases h
    · exact shortens_flatValue _ _ _ h
  | succ depth ih =>
    intro cs v rest h
    unfold value at h
    split at h
    · obtain ⟨⟨items, remaining⟩, hitems, h⟩ := Option.bind_eq_some_iff.1 h
      have hread := shortens_readMembers ih _ _ _ _ hitems
      grind
    · obtain ⟨⟨pairs, remaining⟩, hpairs, h⟩ := Option.bind_eq_some_iff.1 h
      obtain ⟨table, -, h⟩ := Option.bind_eq_some_iff.1 h
      have hread := shortens_readMembers (shortens_inlinePair ih) _ _ _ _ hpairs
      grind
    · exact shortens_flatValue _ _ _ h

/-- The items of an array between its brackets. -/
theorem value_of_items {depth : Nat} {items : List Value}
    (h : Members ']' (Reads (value depth)) items cs rest) :
    Reads (value (depth + 1)) (.array items) ('[' :: cs) rest := by
  have hitems := readMembers_of_members (shortens_value depth) h (by decide)
    (Nat.lt_add_one cs.length)
  simp [Reads, value, hitems]

/-- The pairs of an inline table between its braces. -/
theorem value_of_pairs {depth : Nat} {pairs : List (List String × Value)} {table : Value}
    (h : Members '}' (Reads (inlinePair (value depth))) pairs cs rest)
    (htable : inlineTable pairs = some table) :
    Reads (value (depth + 1)) table ('{' :: cs) rest := by
  have hpairs := readMembers_of_members (shortens_inlinePair (shortens_value depth)) h (by decide)
    (Nat.lt_add_one cs.length)
  simp [Reads, value, hpairs, htable]

/-! ## Statements -/

/-- A key that is given a value: the key, an equals sign, and where the value starts. -/
def Assigns (parts : List String) (cs start : List Char) : Prop :=
  ∃ behind more, key cs = some (parts, behind) ∧ behind.dropWhile isSpace = '=' :: more ∧
    more.dropWhile isSpace = start

theorem statement_of_assigns {parts : List String} {start : List Char} {v : Value}
    (h : Assigns parts cs start) (hvalue : Reads (value maxDepth) v start rest) :
    statement cs = some (.assign parts v, rest) := by
  obtain ⟨behind, more, hkey, hequals, rfl⟩ := h
  rw [Reads] at hvalue
  unfold statement
  split
  · cases hkey
  · cases hkey
  · simp [hkey, hequals, hvalue]

/-- A statement takes a character at least. -/
theorem length_statement {s : Statement} (h : statement cs = some (s, rest)) :
    rest.length < cs.length := by
  have hlength (cs : List Char) := length_dropWhile isSpace cs
  unfold statement at h
  split at h
  · obtain ⟨⟨path, behind⟩, hpath, h⟩ := Option.bind_eq_some_iff.1 h
    have hkey := shortens_key _ _ _ hpath
    grind
  · obtain ⟨⟨path, behind⟩, hpath, h⟩ := Option.bind_eq_some_iff.1 h
    have hkey := shortens_key _ _ _ hpath
    grind
  · obtain ⟨⟨path, behind⟩, hpath, h⟩ := Option.bind_eq_some_iff.1 h
    have hkey := shortens_key _ _ _ hpath
    dsimp only at h
    split at h
    · obtain ⟨⟨v, remaining⟩, hv, h⟩ := Option.bind_eq_some_iff.1 h
      have hread := shortens_value _ _ _ _ hv
      grind
    · cases h

/-- Statements on lines of their own, between two places in a text. -/
inductive Lines : List Statement → List Char → List Char → Prop
  | nil (cs : List Char) : Lines [] cs cs
  | cons {s : Statement} {rest : List Statement} {cs first behind next finish : List Char}
    (htrivia : skipTrivia false cs = some first) (hstatement : statement first = some (s, behind))
    (hend : skipLineEnd false behind = some next) (h : Lines rest next finish) :
    Lines (s :: rest) cs finish

theorem Lines.append {before after : List Statement} {middle : List Char}
    (hbefore : Lines before cs middle) (hafter : Lines after middle rest) :
    Lines (before ++ after) cs rest := by
  induction hbefore with
  | nil => exact hafter
  | cons htrivia hstatement hend _ ih => exact .cons htrivia hstatement hend (ih hafter)

theorem statementsFrom_of_lines {all : List Statement} (h : Lines all cs rest)
    (hrest : skipTrivia false rest = some []) (hfuel : cs.length < fuel) :
    statementsFrom fuel cs = some all := by
  induction h generalizing fuel with
  | nil cs =>
    obtain ⟨fuel, rfl⟩ := Nat.exists_eq_add_one_of_ne_zero (Nat.ne_zero_of_lt hfuel)
    simp [statementsFrom, hrest]
  | @cons s more cs first behind next finish htrivia hstatement hend _ ih =>
    obtain ⟨fuel, rfl⟩ := Nat.exists_eq_add_one_of_ne_zero (Nat.ne_zero_of_lt hfuel)
    have hstart := length_skipTrivia htrivia
    have hbehind := length_statement hstatement
    have hnext := length_skipLineEnd hend
    have hmore : statementsFrom fuel next = some more := ih hrest (by omega)
    rw [statementsFrom, htrivia, Option.bind_eq_bind, Option.bind_some]
    split
    · next hnil => cases hstatement
    · simp [hstatement, hend, hmore]

/-- A document of lines with nothing that counts behind them. -/
theorem statements_of_lines {all : List Statement} (h : Lines all cs rest)
    (hrest : skipTrivia false rest = some []) : statements cs = some all :=
  statementsFrom_of_lines h hrest (Nat.lt_add_one _)

end BusReplay.Toml
