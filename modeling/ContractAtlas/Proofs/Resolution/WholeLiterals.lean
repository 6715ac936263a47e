import ContractAtlas.Proofs.Resolution

/-!
# Whole literals

The search for an address literal stops after forty digits and does not look at what comes next. A
literal is whole if no further digit follows, and cut out of a longer number otherwise
(`Address.WholeAt`, `Address.CutAt`). So a hash or a storage slot in a declaration gives the address
of its first forty digits. Every literal of a probe set is a whole one of a candidate of its name
exactly if this holds of the ones that have been cut out (`literals_whole_iff`).
-/

namespace ContractAtlas

open Json Json.SortedFields Text

namespace Address

variable {address : Address} {characters : List Char} {place : Nat}

/-- At a place of a text stands a literal of the address with no further digit behind it. -/
def WholeAt (address : Address) (characters : List Char) (place : Nat) : Prop :=
  ∃ before text after, characters = before ++ text ++ after ∧ before.length = place ∧
    ofChars? text = some address ∧ ∀ next ∈ after.head?, isHexDigit next = false

/-- At a place of a text begins a longer number whose first forty digits are those of the address.
-/
def CutAt (address : Address) (characters : List Char) (place : Nat) : Prop :=
  ∃ before text digit after, characters = before ++ text ++ digit :: after ∧
    before.length = place ∧ ofChars? text = some address ∧ isHexDigit digit = true

/-- A literal is either whole or cut out of a longer number. -/
theorem literalAt_iff :
    address.LiteralAt characters place ↔
      address.WholeAt characters place ∨ address.CutAt characters place := by
  constructor
  · rintro ⟨before, text, after, spelled, start, read⟩
    cases after with
    | nil => exact .inl ⟨before, text, [], spelled, start, read, by simp⟩
    | cons next after =>
        cases digit : isHexDigit next with
        | true => exact .inr ⟨before, text, next, after, spelled, start, read, digit⟩
        | false => exact .inl ⟨before, text, next :: after, spelled, start, read, by simpa⟩
  · rintro (⟨before, text, after, spelled, start, read, _⟩ |
      ⟨before, text, digit, after, spelled, start, read, _⟩)
    · exact ⟨before, text, after, spelled, start, read⟩
    · exact ⟨before, text, digit :: after, spelled, start, read⟩

/-- Whether a literal stands at a place, and whole, can be seen on the text from there on. -/
theorem wholeAt_iff :
    address.WholeAt characters place ↔
      literalHere? (characters.drop place) = some address ∧
        ∀ next ∈ (characters.drop (place + 42)).head?, isHexDigit next = false := by
  constructor
  · rintro ⟨before, text, after, rfl, rfl, read, stop⟩
    have behind : (before ++ text ++ after).drop (before.length + 42) = after := by
      rw [← length_of_ofChars? read, ← List.length_append, List.drop_left]
    rw [behind, List.append_assoc, List.drop_left, literalHere?,
      List.take_left' (length_of_ofChars? read)]
    exact ⟨read, stop⟩
  · rintro ⟨here, stop⟩
    have long := length_of_ofChars? here
    rw [List.length_take, List.length_drop] at long
    refine ⟨characters.take place, (characters.drop place).take 42, characters.drop (place + 42),
      ?_, by rw [List.length_take]; omega, here, stop⟩
    rw [← List.drop_drop, List.append_assoc, List.take_append_drop, List.take_append_drop]

end Address

namespace StateVariable

/-- Somewhere in its declaration the variable has a whole literal with this normal form. -/
def SpellsWhole (declared : StateVariable) (text : String) : Prop :=
  ∃ body address place, declared.body = some body ∧ Address.WholeAt address body.toList place ∧
    text = address.checksummed

/-- The first literal in the declaration of the variable has this normal form and has been cut out
of a longer number. -/
def CutsOut (declared : StateVariable) (text : String) : Prop :=
  ∃ body address place, declared.body = some body ∧ Address.CutAt address body.toList place ∧
    (∀ earlier < place, ∀ other : Address, ¬ other.LiteralAt body.toList earlier) ∧
    text = address.checksummed

/-- A literal that is cut out is the one that is read. -/
theorem CutsOut.spellsOut {declared : StateVariable} {text : String}
    (cuts : declared.CutsOut text) : declared.SpellsOut text := by
  obtain ⟨body, address, place, declares, cut, first, rfl⟩ := cuts
  exact ⟨body, address, declares, ⟨place, Address.literalAt_iff.mpr (.inr cut), first⟩, rfl⟩

/-- What a declaration spells out first is a whole literal in it or has been cut out. -/
theorem SpellsOut.whole_or_cut {declared : StateVariable} {text : String}
    (spells : declared.SpellsOut text) : declared.SpellsWhole text ∨ declared.CutsOut text := by
  obtain ⟨body, address, declares, ⟨place, stands, first⟩, rfl⟩ := spells
  rcases Address.literalAt_iff.mp stands with whole | cut
  · exact .inl ⟨body, address, place, declares, whole, rfl⟩
  · exact .inr ⟨body, address, place, declares, cut, first, rfl⟩

end StateVariable

/-- A candidate of the name has a whole literal with this normal form. -/
def SpelledWhole (stateVariables : List StateVariable) (name text : String) : Prop :=
  ∃ declared ∈ candidateVariables stateVariables, declared.name = name ∧ declared.SpellsWhole text

/-- The last candidate of the name with a literal cuts this one out of a longer number. -/
def LastCut (stateVariables : List StateVariable) (name text : String) : Prop :=
  ∃ earlier declared later,
    candidateVariables stateVariables = earlier ++ declared :: later ∧
      declared.name = name ∧ declared.CutsOut text ∧
      ∀ other ∈ later, other.name = name → ¬ other.HasLiteral

variable {stateVariables : List StateVariable} {name text : String}

/-- The last literal of a name that is cut out is the one that is kept for it. -/
theorem LastCut.lastLiteral (cut : LastCut stateVariables name text) :
    LastLiteral stateVariables name text := by
  obtain ⟨earlier, declared, later, split, named, cuts, last⟩ := cut
  exact ⟨earlier, declared, later, split, ⟨named, cuts.spellsOut⟩,
    fun other member _ spells => last other member spells.1 ⟨_, spells.2⟩⟩

/-- The literal of a name is a whole one of its candidates or has been cut out by the last one. -/
theorem LastLiteral.whole_or_cut (literal : LastLiteral stateVariables name text) :
    SpelledWhole stateVariables name text ∨ LastCut stateVariables name text := by
  obtain ⟨earlier, declared, later, split, ⟨named, spells⟩, last⟩ := literal
  rcases spells.whole_or_cut with whole | cuts
  · exact .inl ⟨declared, by simp [split], named, whole⟩
  · exact .inr ⟨earlier, declared, later, split, named, cuts,
      fun other member sameName ⟨text, spells⟩ => last other member text ⟨sameName, spells⟩⟩

/-- The literals that are kept are the last ones of their names. -/
theorem mem_literals_iff :
    (name, text) ∈ (ProbeSet.ofVariables stateVariables).literals ↔
      LastLiteral stateVariables name text := by
  have sorted : Sorted (ProbeSet.ofVariables stateVariables).literals := sorted_ofList _
  rw [← find?_eq_some_iff sorted.nodup, find?_literals]

/-- The literals of a probe set are the first ones of the last candidates. They all are whole
literals of candidates of their names exactly if those are that have been cut out of longer numbers,
which another literal of the name has to spell out then. -/
theorem literals_whole_iff (stateVariables : List StateVariable) :
    (∀ name text, (name, text) ∈ (ProbeSet.ofVariables stateVariables).literals ↔
      LastLiteral stateVariables name text) ∧
    ((∀ name text, (name, text) ∈ (ProbeSet.ofVariables stateVariables).literals →
        SpelledWhole stateVariables name text) ↔
      ∀ name text, LastCut stateVariables name text → SpelledWhole stateVariables name text) := by
  refine ⟨fun _ _ => mem_literals_iff, fun whole name text cut => ?_,
    fun whole name text member => ?_⟩
  · exact whole name text (mem_literals_iff.mpr cut.lastLiteral)
  · exact (mem_literals_iff.mp member).whole_or_cut.elim id (whole name text)

/-- The declaration of a storage slot. Its number has sixty-four digits. -/
def slotDeclaration : String :=
  "slot = address(uint160(uint256(0x" ++
    "1111111111111111111111111111111111111111111111111111111111111111)))"

/-- The slot is no address literal, but the probe set has the address of its first forty digits. -/
theorem literal_of_slot :
    let slot : StateVariable :=
      { name := "slot", type := "address", isVariable := true, body := some slotDeclaration }
    (ProbeSet.ofVariables [slot]).literals =
        [("slot", "0x1111111111111111111111111111111111111111")] ∧
      ¬ SpelledWhole [slot] "slot" "0x1111111111111111111111111111111111111111" := by
  intro slot
  refine ⟨by decide, ?_⟩
  rintro ⟨declared, member, _, body, address, place, declares, whole, _⟩
  obtain rfl : declared = slot := List.mem_singleton.mp (List.mem_of_mem_filter member)
  obtain rfl : slotDeclaration = body := Option.some.inj declares
  obtain ⟨here, stop⟩ := Address.wholeAt_iff.mp whole
  -- Wherever a literal stands in the declaration, one more digit follows it.
  have goesOn : ∀ place < 100, (literalHere? (slotDeclaration.toList.drop place)).isSome = true →
      (slotDeclaration.toList.drop (place + 42)).head?.any isHexDigit = true := by
    decide
  have within : place < 100 := by
    have long := Address.length_of_ofChars? here
    have short : slotDeclaration.toList.length = 100 := by decide
    rw [List.length_take, List.length_drop] at long
    omega
  obtain ⟨next, follows, digit⟩ := (Option.any_eq_true _ _).mp
    (goesOn place within (by rw [here]; rfl))
  cases digit.symm.trans (stop next follows)

end ContractAtlas
