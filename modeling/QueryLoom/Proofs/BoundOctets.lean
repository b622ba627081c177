import QueryLoom.Proofs.BoundQueries
import QueryLoom.Proofs.OrderedParameters
import QueryLoom.Proofs.UuidText

/-!
# UUIDs that are bound as octets

Where the conventions ask for octets, no parameter of a statement holds a UUID, also not in a
collection in a collection. Each UUID of a value that is bound has become its sixteen octets in its
place, and nothing else of the value has changed.

## Implementation notes

A place in a value is a list of positions, one for each collection from the outside in. A nested
query is a value without places inside it, so what it holds itself is not looked into. Which values
are bound is read off the tree by the lists of bindings.
-/

namespace QueryLoom

namespace Value

/-! ## Places -/

/-- What stands at a place of a value. -/
def at? : List Nat → Value → Option Value
  | [], value => some value
  | position :: place, .collection items => items[position]?.bind (at? place)
  | _ :: _, _ => none

/-- A UUID stands at some place of a value. -/
def HoldsUuid (value : Value) : Prop := ∃ place id, value.at? place = some (.uuid id)

/-- A value has at each place what another one has there, with octets for a UUID. -/
def InOctets (given bound : Value) : Prop :=
  ∀ place, match given.at? place with
    | none => bound.at? place = none
    | some (.uuid id) => bound.at? place = some (.bytes id.octets)
    | some (.collection items) =>
      ∃ items', bound.at? place = some (.collection items') ∧ items'.length = items.length
    | some value => bound.at? place = some value

theorem withUuidOctetsList_eq (items : List Value) :
    withUuidOctetsList items = items.map withUuidOctets := by
  induction items with
  | nil => rfl
  | cons first rest ih => rw [withUuidOctetsList, ih, List.map_cons]

theorem withUuidOctets_collection (items : List Value) :
    (collection items).withUuidOctets = .collection (items.map withUuidOctets) := by
  rw [withUuidOctets, withUuidOctetsList_eq]

/-- At a place of the value in octets stands what stood there, in octets. -/
theorem at?_withUuidOctets (place : List Nat) (value : Value) :
    value.withUuidOctets.at? place = (value.at? place).map withUuidOctets := by
  induction place generalizing value with
  | nil => cases value <;> rfl
  | cons position place ih =>
    cases value with
    | collection items =>
      rw [withUuidOctets_collection, at?, at?, List.getElem?_map]
      cases items[position]? with
      | none => rfl
      | some item => exact ih item
    | _ => rfl

theorem inOctets_withUuidOctets (value : Value) : value.InOctets value.withUuidOctets := by
  intro place
  rw [at?_withUuidOctets]
  cases value.at? place with
  | none => rfl
  | some found =>
    cases found with
    | collection items =>
      refine ⟨items.map withUuidOctets, ?_, List.length_map _⟩
      rw [Option.map_some, withUuidOctets_collection]
    | _ => rfl

theorem not_holdsUuid_withUuidOctets (value : Value) : ¬ value.withUuidOctets.HoldsUuid := by
  rintro ⟨place, id, h⟩
  rw [at?_withUuidOctets, Option.map_eq_some_iff] at h
  obtain ⟨found, -, hfound⟩ := h
  cases found <;> cases hfound

theorem HoldsUuid.collection {items : List Value} {item : Value} (hitem : item ∈ items)
    (h : item.HoldsUuid) : (Value.collection items).HoldsUuid := by
  obtain ⟨place, id, hplace⟩ := h
  obtain ⟨position, hposition⟩ := List.mem_iff_getElem?.mp hitem
  refine ⟨position :: place, id, ?_⟩
  rw [at?, hposition]
  exact hplace

mutual
/-- A value without UUIDs is as it is in octets. -/
theorem withUuidOctets_of_not_holdsUuid (value : Value) (h : ¬ value.HoldsUuid) :
    value.withUuidOctets = value := by
  cases value with
  | uuid id => exact absurd ⟨[], id, rfl⟩ h
  | collection items =>
    rw [withUuidOctets, withUuidOctetsList_of_not_holdsUuid items fun item hitem hholds =>
      h (hholds.collection hitem)]
  | _ => rfl
termination_by structural value

theorem withUuidOctetsList_of_not_holdsUuid (items : List Value)
    (h : ∀ item ∈ items, ¬ item.HoldsUuid) : withUuidOctetsList items = items := by
  cases items with
  | nil => rfl
  | cons first rest =>
    obtain ⟨hfirst, hrest⟩ := List.forall_mem_cons.mp h
    rw [withUuidOctetsList, withUuidOctets_of_not_holdsUuid first hfirst,
      withUuidOctetsList_of_not_holdsUuid rest hrest]
termination_by structural items
end

end Value

/-! ## Parameters -/

/-- A value is bound for one that is given: in octets if the conventions ask for them, and unchanged
if they do not, or if there is no UUID in it. -/
structure Conventions.Binds (conventions : Conventions) (given bound : Value) : Prop where
  octets : conventions.uuidOctets = true → given.InOctets bound
  unchanged : conventions.uuidOctets = false ∨ ¬ given.HoldsUuid → bound = given

theorem Conventions.binds_bound (conventions : Conventions) (given : Value) :
    conventions.Binds given (conventions.bound given) := by
  unfold bound
  cases hoctets : conventions.uuidOctets with
  | false => exact ⟨fun h => absurd (hoctets.symm.trans h) Bool.false_ne_true, fun _ => rfl⟩
  | true =>
    refine ⟨fun _ => given.inOctets_withUuidOctets, ?_⟩
    rintro (hplain | hfree)
    · exact absurd (hplain.symm.trans hoctets) Bool.false_ne_true
    · exact given.withUuidOctets_of_not_holdsUuid hfree

variable {c : Compiler} {number : Nat} {bindings : List Binding} {issue : Issue}

theorem Issue.binds_parameter {given : Value} (h : issue.1.value = some given) :
    c.conventions.Binds given (issue.parameter c.conventions).value := by
  unfold Issue.parameter Binding.parameter
  rw [h]
  exact c.conventions.binds_bound given

/-- No parameter of a binding holds a UUID where octets are asked for; an output is NULL. -/
theorem Issue.not_holdsUuid_parameter (h : c.conventions.uuidOctets = true) :
    ¬ (issue.parameter c.conventions).value.HoldsUuid := by
  unfold Issue.parameter Binding.parameter
  cases issue.1.value with
  | none =>
    rintro ⟨place, id, hplace⟩
    cases place <;> cases hplace
  | some given =>
    unfold Conventions.bound
    rw [h]
    exact given.not_holdsUuid_withUuidOctets

/-- A binding that stays is found under its name. -/
theorem Issue.Stays.get?_parametersOf (h : issue.Stays (numbered number bindings))
    (hmem : issue ∈ numbered number bindings) :
    (parametersOf c number bindings).get? issue.name = some (issue.parameter c.conventions) := by
  refine (Parameters.find?_name_eq_some_iff nodup_names_parametersOf).mpr ⟨?_, issue.name_parameter _⟩
  exact mem_parametersOf.mpr ⟨issue, hmem, h, rfl⟩

/-- A statement has put in a parameter for each of some bindings, one after the other, and each of
them binds the value that is given. It is found under its name unless a later one has the same, and
where octets are asked for no parameter holds a UUID. -/
structure OctetsBound (c : Compiler) (number : Nat) (bindings : List Binding)
    (statement : Statement) : Prop where
  parameters : statement.parameters = parametersOf c number bindings
  binds : ∀ issue ∈ numbered number bindings, ∀ given, issue.1.value = some given →
    c.conventions.Binds given (issue.parameter c.conventions).value
  found : ∀ issue ∈ numbered number bindings, issue.Stays (numbered number bindings) →
    statement.parameters.get? issue.name = some (issue.parameter c.conventions)
  free : c.conventions.uuidOctets = true → ∀ p ∈ statement.parameters.items, ¬ p.value.HoldsUuid

theorem octetsBound_of_parameters {statement : Statement}
    (h : statement.parameters = parametersOf c number bindings) :
    OctetsBound c number bindings statement where
  parameters := h
  binds _ _ _ := Issue.binds_parameter
  found issue hmem hstays := by
    rw [h]
    exact hstays.get?_parametersOf hmem
  free hoctets := by
    intro p hp
    rw [h, mem_parametersOf] at hp
    obtain ⟨issue, -, -, rfl⟩ := hp
    exact Issue.not_holdsUuid_parameter hoctets

/-- Where octets are asked for, no parameter of the statement of a query without text, or of a
statement of a command at any number, holds a UUID; what is given for a parameter is bound with its
UUIDs in octets, each in its place. What does not ask for octets or has no UUID is bound as it is.
Given are the bindings of the tree; a comparison gives its own value unless it makes a pattern of
it. The octets of a UUID are sixteen, and written one after the other they are its bits. -/
theorem uuids_bound_inOctets (c : Compiler) :
    (∀ query statement, query.text = none → c.query query = .ok statement →
      OctetsBound c 0 query.statementBindings statement) ∧
    (∀ command number compiled, (∀ text, command ≠ .text text) →
      c.command command number = .ok compiled → ∀ statement ∈ compiled.statements,
        OctetsBound c number (c.bindings command) statement) ∧
    (∀ operator value, operator.pattern? = none → scalarOperand operator value = value) ∧
    ∀ id : Uuid, id.octets.length = 16 ∧
      (id.octets.map UInt8.toNat).foldl (fun total octet => 256 * total + octet) 0 =
        id.bits.toNat := by
  refine ⟨?_, ?_, ?_, fun id => ⟨id.length_octets, id.foldl_octets⟩⟩
  · intro query statement htext h
    exact octetsBound_of_parameters (query_placed htext h).1
  · intro command number compiled htext h statement hstatement
    exact octetsBound_of_parameters ((command_placed h).2 statement hstatement htext).parameters
  · intro operator value hpattern
    unfold scalarOperand
    rw [hpattern]
    exact ite_self value

/-- The accounts of an owner among some values, deleted under conventions that ask for octets. -/
def ownedDeletion (owners : List Value) : Command :=
  .delete { entity := "Account", query := some { conditions :=
    [⟨.and, .criterion ⟨"Owner", .isIn, .collection owners, none⟩⟩] } }

/-- A UUID in a collection in a collection is bound as octets. -/
theorem listedUuid_bound_inOctets :
    let c : Compiler := { accountCompiler ["Id", "Owner"] with conventions := { uuidOctets := true } }
    let command := ownedDeletion [.null, .collection [.uuid ⟨0x0123456789abcdef0011223344556677⟩]]
    ∃ compiled statement, c.command command 3 = .ok compiled ∧ statement ∈ compiled.statements ∧
      (∀ p ∈ statement.parameters.items, ¬ p.value.HoldsUuid) ∧
      statement.parameters.items.map (fun p => (p.name, p.value.display)) =
        [("Owner3", "[NULL, [0123456789ABCDEF0011223344556677]]")] := by
  intro c command
  obtain ⟨compiled, statement, h, hstatement⟩ := exists_singleton_of_length
    (x := c.command command 3) (f := Compiled.statements) (by decide +kernel)
  have htext : ∀ text, command ≠ .text text := by
    intro text heq
    simp only [command, ownedDeletion, reduceCtorEq] at heq
  have hread : (c.command command 3).toOption.map (fun compiled => compiled.statements.map
      fun statement => statement.parameters.items.map fun p => (p.name, p.value.display)) =
      some [[("Owner3", "[NULL, [0123456789ABCDEF0011223344556677]]")]] := by
    decide +kernel
  rw [h] at hread
  have hitems := Option.some.inj hread
  simp only [hstatement, List.map_singleton] at hitems
  have hmem : statement ∈ compiled.statements := hstatement ▸ List.mem_singleton_self _
  have hbound := (uuids_bound_inOctets c).2.1 command 3 compiled htext h statement hmem
  exact ⟨compiled, statement, h, hmem, hbound.free rfl, (List.cons.inj hitems).1⟩

end QueryLoom
