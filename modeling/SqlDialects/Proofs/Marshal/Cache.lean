import SqlDialects.Marshal.Registry

/-!
# The shared array marshallers of a registry

A registry keeps the basic types and the array marshallers made for them in two lists that are changed
separately. Over a whole run of calls the second one follows the first (`TypeRegistry.Sound`): every
marshaller kept is for the type that stands under its name now, and no two names share one. A marshaller
is handed out again for as long as its type is not registered anew, and never after that.
-/

namespace SqlDialects

theorem lookup_filter_ne {α : Type} (entries : List (String × α)) (key name : String) :
    (entries.filter (·.1 != key)).lookup name = if name = key then none else entries.lookup name := by
  induction entries with
  | nil => simp
  | cons entry entries ih =>
    obtain ⟨k, a⟩ := entry
    by_cases hk : k = key
    · -- an entry of the key is left out, and is not the one of any other name
      subst hk
      rw [List.filter_cons_of_neg (by simp), ih]
      split
      · rfl
      · next other => rw [List.lookup_cons, beq_eq_false_iff_ne.2 other]
    · rw [List.filter_cons_of_pos (by simpa using hk), List.lookup_cons, List.lookup_cons, ih]
      cases same : name == k with
      | false => rfl
      | true =>
        have other : name ≠ key := by
          rw [beq_iff_eq.1 same]
          exact hk
        exact (if_neg other).symm

/-- A call on a registry. -/
inductive RegistryCall where
  | register (b : BasicType)
  | get (name : String)
  | resolve (name : String)
  | arrayOf (name : String)

namespace RegistryCall

/-- The type that a call registers, if it registers one. -/
def registered? : RegistryCall → Option BasicType
  | register b => some b
  | _ => none

end RegistryCall

/-- The type that was registered last under a name, among types in the order of their registration. -/
def lastNamed? (name : String) (registered : List BasicType) : Option BasicType :=
  registered.reverse.find? (·.name == name)

theorem lastNamed?_append_singleton (name : String) (registered : List BasicType) (b : BasicType) :
    lastNamed? name (registered ++ [b]) =
      if b.name = name then some b else lastNamed? name registered := by
  rw [lastNamed?, List.reverse_append, List.reverse_singleton, List.singleton_append, List.find?_cons]
  by_cases same : b.name = name
  · rw [if_pos same, beq_iff_eq.2 same]
  · rw [if_neg same, beq_eq_false_iff_ne.2 same, lastNamed?]

/-- How a registry is started. -/
inductive RegistryStart where
  /-- Without any type, over some recommended representations. -/
  | empty (recommended : RepresentationMap)
  /-- With the built-in types. -/
  | standard

namespace RegistryStart

/-- The registry at the start. -/
def registry : RegistryStart → TypeRegistry
  | empty recommended => .empty recommended
  | standard => .standard

/-- The types that are registered at the start, in order. -/
def registered : RegistryStart → List BasicType
  | empty _ => []
  | standard =>
    TypeRegistry.primitiveTypes.flatMap (fun (name, code, kind) =>
      [.plain name (.ofCode code) (.boxed kind),
        .plain ("primitive_" ++ kind.name) (.ofCode code) (.primitive kind)])
      ++ [.plain "string" (.ofCode .varchar) .string, .plain "big_decimal" (.ofCode .numeric) .decimal]

end RegistryStart

namespace TypeRegistry

/-- The marshaller that is handed out for arrays of the named type. -/
def serve (r : TypeRegistry) (name : String) : Except MarshalError SharedMarshaller :=
  (r.arrayOf name).map Prod.fst

/-- The registry after a call; a call that fails leaves it as it is. -/
def after (r : TypeRegistry) : RegistryCall → TypeRegistry
  | .register b => r.register b
  | .get _ => r
  | .resolve _ => r
  | .arrayOf name =>
    match r.arrayOf name with
    | .ok (_, next) => next
    | .error _ => r

/-- The registry after some calls, made one after another. -/
def afterAll (r : TypeRegistry) (calls : List RegistryCall) : TypeRegistry := calls.foldl after r

/-- The marshaller that is kept for arrays of the named type. -/
def kept? (r : TypeRegistry) (name : String) : Option SharedMarshaller := r.arrays.lookup name

/-- What the marshallers that a registry keeps have to do with its types and with each other. -/
structure Sound (r : TypeRegistry) : Prop where
  /-- A marshaller is for the type that stands under its name now. -/
  current : ∀ {name s}, r.kept? name = some s → r.get? name = some s.marshaller.element
  /-- The numbers given so far are the ones below `made`. -/
  numbered : ∀ {name s}, r.kept? name = some s → s.number < r.made
  /-- No two names share a marshaller. -/
  distinct : ∀ {name other s t}, r.kept? name = some s → r.kept? other = some t →
    s.number = t.number → name = other

section Register

variable {r : TypeRegistry} {name : String} {b : BasicType}

theorem get?_register_eq : (r.register b).get? name = if b.name = name then some b else r.get? name := by
  by_cases same : b.name = name
  · rw [if_pos same, ← same, get?_register]
  · have differs : name ≠ b.name := fun h => same h.symm
    rw [if_neg same, get?, register, List.lookup_cons, beq_eq_false_iff_ne.2 differs]
    exact (lookup_filter_ne _ _ _).trans (if_neg differs)

theorem kept?_register_of_ne (h : b.name ≠ name) : (r.register b).kept? name = r.kept? name := by
  rw [kept?, register]
  dsimp only
  split
  · exact (lookup_filter_ne _ _ _).trans (if_neg (Ne.symm h))
  · rfl

/-- No marshaller is kept for a type that was just registered. -/
theorem Sound.kept?_register_self (h : r.Sound) : (r.register b).kept? b.name = none := by
  rw [kept?, register]
  dsimp only
  split
  · exact (lookup_filter_ne _ _ _).trans (if_pos rfl)
  · next unknown =>
    -- no type stood under the name, and so there was no marshaller to be forgotten
    cases found : r.kept? b.name with
    | none => exact found
    | some s => exact absurd (Option.isSome_of_eq_some (h.current found)) unknown

/-- A marshaller kept after a registration is one of another name, and was kept before. -/
theorem Sound.kept?_of_register {s : SharedMarshaller} (h : r.Sound)
    (found : (r.register b).kept? name = some s) : b.name ≠ name ∧ r.kept? name = some s := by
  have differs : b.name ≠ name := by
    rintro rfl
    rw [h.kept?_register_self] at found
    cases found
  exact ⟨differs, (kept?_register_of_ne differs).symm.trans found⟩

theorem Sound.register (h : r.Sound) : (r.register b).Sound where
  current found := by
    obtain ⟨differs, old⟩ := h.kept?_of_register found
    rw [get?_register_eq, if_neg differs]
    exact h.current old
  numbered found := h.numbered (h.kept?_of_register found).2
  distinct first second same :=
    h.distinct (h.kept?_of_register first).2 (h.kept?_of_register second).2 same

end Register

section ArrayOf

variable {r : TypeRegistry} {name other : String} {b : BasicType} {s : SharedMarshaller}

/-- The registry that makes a marshaller for a type and keeps it. -/
def making (r : TypeRegistry) (name : String) (b : BasicType) : TypeRegistry :=
  { r with arrays := (name, ⟨r.made, ⟨b⟩⟩) :: r.arrays, made := r.made + 1 }

theorem kept?_making :
    (r.making name b).kept? other = if other = name then some ⟨r.made, ⟨b⟩⟩ else r.kept? other := by
  rw [kept?, making]
  dsimp only
  rw [List.lookup_cons]
  by_cases same : other = name
  · rw [if_pos same, beq_iff_eq.2 same]
  · rw [if_neg same, beq_eq_false_iff_ne.2 same, kept?]

theorem arrayOf_of_kept? (h : r.kept? name = some s) : r.arrayOf name = .ok (s, r) := by
  rw [arrayOf, show r.arrays.lookup name = some s from h]

theorem arrayOf_of_get? (unkept : r.kept? name = none) (h : r.get? name = some b) :
    r.arrayOf name = .ok (⟨r.made, ⟨b⟩⟩, r.making name b) := by
  rw [arrayOf, show r.arrays.lookup name = none from unkept, resolve, h]
  rfl

theorem arrayOf_of_unknown (unkept : r.kept? name = none) (h : r.get? name = none) :
    r.arrayOf name = .error (.unknownBasicType name) := by
  rw [arrayOf, show r.arrays.lookup name = none from unkept, resolve, h]
  rfl

/-- What asking for the arrays of a type does: the marshaller kept is handed out, or one is made and
kept, or nothing is known under the name. -/
theorem arrayOf_cases (r : TypeRegistry) (name : String) :
    (∃ s, r.kept? name = some s ∧ r.arrayOf name = .ok (s, r)) ∨
    (∃ b, r.kept? name = none ∧ r.get? name = some b ∧
      r.arrayOf name = .ok (⟨r.made, ⟨b⟩⟩, r.making name b)) ∨
    (r.kept? name = none ∧ r.get? name = none ∧
      r.arrayOf name = .error (.unknownBasicType name)) := by
  cases kept : r.kept? name with
  | some s => exact .inl ⟨s, rfl, arrayOf_of_kept? kept⟩
  | none =>
    cases known : r.get? name with
    | some b => exact .inr (.inl ⟨b, rfl, rfl, arrayOf_of_get? kept known⟩)
    | none => exact .inr (.inr ⟨rfl, rfl, arrayOf_of_unknown kept known⟩)

theorem Sound.making (h : r.Sound) (known : r.get? name = some b) : (r.making name b).Sound where
  current {other s} found := by
    rw [kept?_making] at found
    split at found
    · next same =>
      cases found
      rw [same]
      exact known
    · exact h.current found
  numbered {other s} found := by
    rw [kept?_making] at found
    split at found
    · cases found
      exact Nat.lt_succ_self r.made
    · exact Nat.lt_succ_of_lt (h.numbered found)
  distinct {first second s t} foundFirst foundSecond same := by
    rw [kept?_making] at foundFirst foundSecond
    -- the number of the new marshaller is above all the others
    split at foundFirst <;> split at foundSecond
    · next left right => rw [left, right]
    · cases foundFirst
      have below := h.numbered foundSecond
      exact absurd same (Nat.ne_of_gt below)
    · cases foundSecond
      have below := h.numbered foundFirst
      exact absurd same (Nat.ne_of_lt below)
    · exact h.distinct foundFirst foundSecond same

end ArrayOf

/-- What a call leaves: a registration, one marshaller more, or the registry as it was. -/
theorem after_cases (r : TypeRegistry) (call : RegistryCall) :
    (∃ b, call = .register b ∧ r.after call = r.register b) ∨
    (call.registered? = none ∧ ∃ name b, r.kept? name = none ∧ r.get? name = some b ∧
      r.after call = r.making name b) ∨
    (call.registered? = none ∧ r.after call = r) := by
  cases call with
  | register b => exact .inl ⟨b, rfl, rfl⟩
  | get name => exact .inr (.inr ⟨rfl, rfl⟩)
  | resolve name => exact .inr (.inr ⟨rfl, rfl⟩)
  | arrayOf name =>
    rcases r.arrayOf_cases name with ⟨s, -, run⟩ | ⟨b, unkept, known, run⟩ | ⟨-, -, run⟩
    · exact .inr (.inr ⟨rfl, by rw [after, run]⟩)
    · exact .inr (.inl ⟨rfl, name, b, unkept, known, by rw [after, run]⟩)
    · exact .inr (.inr ⟨rfl, by rw [after, run]⟩)

section Runs

variable {r : TypeRegistry} {name other : String} {s t : SharedMarshaller}

theorem Sound.after (h : r.Sound) (call : RegistryCall) : (r.after call).Sound := by
  rcases r.after_cases call with ⟨b, -, same⟩ | ⟨-, name, b, -, known, same⟩ | ⟨-, same⟩
  · rw [same]
    exact h.register
  · rw [same]
    exact h.making known
  · rw [same]
    exact h

theorem Sound.afterAll (h : r.Sound) (calls : List RegistryCall) : (r.afterAll calls).Sound := by
  induction calls generalizing r with
  | nil => exact h
  | cons call calls ih => exact ih (h.after call)

/-- A call changes the type under a name exactly if it registers one. -/
theorem get?_after (r : TypeRegistry) (call : RegistryCall) (types : List BasicType)
    (h : ∀ name, r.get? name = lastNamed? name types) (name : String) :
    (r.after call).get? name = lastNamed? name (types ++ call.registered?.toList) := by
  rcases r.after_cases call with ⟨b, rfl, same⟩ | ⟨none, _, _, -, -, same⟩ | ⟨none, same⟩
  · rw [same, get?_register_eq, h name]
    exact (lastNamed?_append_singleton name types b).symm
  · rw [same, none, Option.toList_none, List.append_nil]
    exact h name
  · rw [same, none, Option.toList_none, List.append_nil]
    exact h name

theorem get?_afterAll (r : TypeRegistry) (calls : List RegistryCall) (types : List BasicType)
    (h : ∀ name, r.get? name = lastNamed? name types) (name : String) :
    (r.afterAll calls).get? name =
      lastNamed? name (types ++ calls.filterMap RegistryCall.registered?) := by
  induction calls generalizing r types with
  | nil => simpa [afterAll] using h name
  | cons call calls ih =>
    have rest := ih (r.after call) (types ++ call.registered?.toList) (r.get?_after call types h)
    refine rest.trans (congrArg _ ?_)
    cases call <;> simp [RegistryCall.registered?, List.filterMap_cons]

/-- The number has been given, and the marshaller that has it is no longer kept. -/
def Retired (r : TypeRegistry) (number : Nat) : Prop :=
  number < r.made ∧ ∀ {name s}, r.kept? name = some s → s.number ≠ number

theorem Retired.after {number : Nat} (sound : r.Sound) (h : r.Retired number) (call : RegistryCall) :
    (r.after call).Retired number := by
  rcases r.after_cases call with ⟨b, -, same⟩ | ⟨-, name, b, -, -, same⟩ | ⟨-, same⟩
  · rw [same]
    exact ⟨h.1, fun found => h.2 (sound.kept?_of_register found).2⟩
  · rw [same]
    refine ⟨Nat.lt_succ_of_lt h.1, fun found => ?_⟩
    rw [kept?_making] at found
    split at found
    · cases found
      exact Nat.ne_of_gt h.1
    · exact h.2 found
  · rw [same]
    exact h

theorem Retired.afterAll {number : Nat} (sound : r.Sound) (h : r.Retired number)
    (calls : List RegistryCall) : (r.afterAll calls).Retired number := by
  induction calls generalizing r with
  | nil => exact h
  | cons call calls ih => exact ih (sound.after call) (h.after sound call)

/-- A registration retires the marshaller that is kept under its name. -/
theorem Sound.retired_register {b : BasicType} (h : r.Sound) (kept : r.kept? b.name = some s) :
    (r.register b).Retired s.number := by
  refine ⟨h.numbered kept, fun found same => ?_⟩
  obtain ⟨differs, old⟩ := h.kept?_of_register found
  exact differs (h.distinct kept old same.symm)

/-- A call keeps a marshaller unless it registers a type under its name. -/
theorem kept?_after (kept : r.kept? name = some s) (call : RegistryCall)
    (spared : ∀ b ∈ call.registered?, b.name ≠ name) : (r.after call).kept? name = some s := by
  rcases r.after_cases call with ⟨b, rfl, same⟩ | ⟨-, fresh, b, unkept, -, same⟩ | ⟨-, same⟩
  · rw [same, kept?_register_of_ne (spared b rfl)]
    exact kept
  · have differs : name ≠ fresh := by
      rintro rfl
      rw [unkept] at kept
      cases kept
    rw [same, kept?_making, if_neg differs]
    exact kept
  · rw [same]
    exact kept

/-- Over a run, a marshaller is kept exactly until a type is registered under its name. -/
theorem Sound.kept_or_retired (h : r.Sound) (kept : r.kept? name = some s) (calls : List RegistryCall) :
    (∀ b ∈ calls.filterMap RegistryCall.registered?, b.name ≠ name) ∧
        (r.afterAll calls).kept? name = some s ∨
      (∃ b ∈ calls.filterMap RegistryCall.registered?, b.name = name) ∧
        (r.afterAll calls).Retired s.number := by
  induction calls generalizing r with
  | nil => exact .inl ⟨by simp, kept⟩
  | cons call calls ih =>
    by_cases spared : ∀ b ∈ call.registered?, b.name ≠ name
    · rcases ih (h.after call) (kept?_after kept call spared) with
        ⟨none, still⟩ | ⟨⟨b, hb, same⟩, gone⟩
      · refine .inl ⟨fun b hb => ?_, still⟩
        obtain ⟨c, hc, reg⟩ := List.mem_filterMap.1 hb
        rcases List.mem_cons.1 hc with rfl | hc
        · exact spared b reg
        · exact none b (List.mem_filterMap.2 ⟨c, hc, reg⟩)
      · obtain ⟨c, hc, reg⟩ := List.mem_filterMap.1 hb
        exact .inr ⟨⟨b, List.mem_filterMap.2 ⟨c, List.mem_cons_of_mem _ hc, reg⟩, same⟩, gone⟩
    · -- the call registers a type under the name, and from there on the number is not seen again
      obtain ⟨b, reg, rfl⟩ : ∃ b ∈ call.registered?, b.name = name := by simpa using spared
      have gone : (r.after call).Retired s.number := by
        rcases r.after_cases call with ⟨c, rfl, same⟩ | ⟨none, -⟩ | ⟨none, -⟩
        · cases reg
          rw [same]
          exact h.retired_register kept
        · rw [none] at reg
          cases reg
        · rw [none] at reg
          cases reg
      exact .inr ⟨⟨b, List.mem_filterMap.2 ⟨call, List.mem_cons_self, reg⟩, rfl⟩,
        gone.afterAll (h.after call) calls⟩

/-- A marshaller that is handed out was kept before, or has a number that was not given before; it is kept
afterwards. -/
theorem serve_ok (h : r.serve name = .ok s) :
    (r.kept? name = some s ∨ s.number = r.made) ∧ (r.after (.arrayOf name)).kept? name = some s := by
  rw [serve] at h
  rw [after]
  rcases r.arrayOf_cases name with ⟨old, kept, run⟩ | ⟨b, -, -, run⟩ | ⟨-, -, run⟩
  · rw [run] at h ⊢
    cases h
    exact ⟨.inl kept, kept⟩
  · rw [run] at h ⊢
    cases h
    exact ⟨.inr rfl, kept?_making.trans (if_pos rfl)⟩
  · rw [run] at h
    cases h

theorem Retired.serve_ne {number : Nat} (h : r.Retired number) (served : r.serve other = .ok t) :
    t.number ≠ number := by
  rcases (serve_ok served).1 with kept | new
  · exact h.2 kept
  · rw [new]
    exact Nat.ne_of_gt h.1

/-- While a marshaller is kept, it is handed out for its name, and for no other one. -/
theorem Sound.serve_eq_iff (h : r.Sound) (kept : r.kept? name = some s) (served : r.serve other = .ok t) :
    (t.number = s.number ↔ other = name) ∧ (t.number = s.number → t = s) := by
  have ofName : other = name → t = s := by
    rintro rfl
    rw [serve, arrayOf_of_kept? kept] at served
    cases served
    rfl
  have ofNumber : t.number = s.number → other = name := by
    intro same
    rcases (serve_ok served).1 with old | new
    · exact h.distinct old kept same
    · have below := h.numbered kept
      exact absurd (same.symm.trans new) (Nat.ne_of_lt below)
  exact ⟨⟨ofNumber, fun same => congrArg _ (ofName same)⟩, fun same => ofName (ofNumber same)⟩

end Runs

/-- The element type of the marshaller that is handed out is the one that stands under the name. -/
theorem Sound.element_serve {r : TypeRegistry} (h : r.Sound) (name : String) :
    (r.serve name).map (·.marshaller.element) = r.resolve name := by
  rw [serve, resolve]
  rcases r.arrayOf_cases name with ⟨s, kept, run⟩ | ⟨b, -, known, run⟩ | ⟨-, unknown, run⟩
  · rw [run, h.current kept]
    rfl
  · rw [run, known]
    rfl
  · rw [run, unknown]
    rfl

end TypeRegistry

namespace RegistryStart

open TypeRegistry

theorem sound_empty (recommended : RepresentationMap) : (TypeRegistry.empty recommended).Sound where
  current found := by cases found
  numbered found := by cases found
  distinct found := by cases found

/-- The built-in types are registered one after another. -/
theorem registry_eq_afterAll (start : RegistryStart) :
    ∃ recommended, start.registry =
      (TypeRegistry.empty recommended).afterAll (start.registered.map .register) := by
  cases start with
  | empty recommended => exact ⟨recommended, rfl⟩
  | standard => exact ⟨.standard, rfl⟩

theorem sound (start : RegistryStart) : start.registry.Sound := by
  obtain ⟨recommended, same⟩ := start.registry_eq_afterAll
  rw [same]
  exact (sound_empty recommended).afterAll _

theorem get?_registry (start : RegistryStart) (name : String) :
    start.registry.get? name = lastNamed? name start.registered := by
  obtain ⟨recommended, same⟩ := start.registry_eq_afterAll
  rw [same, get?_afterAll _ _ [] (fun _ => rfl), List.nil_append, List.filterMap_map]
  exact congrArg _ (List.filterMap_some)

end RegistryStart

/-- The array marshallers that a registry hands out are always current. After any calls, the arrays of
a name are served exactly if a type was registered under it, and for the type that was registered last.
A later request gets the very same marshaller exactly if it is for the same name and no type was
registered under that name in between; no other one is ever handed out under its number. -/
theorem TypeRegistry.serve_current (start : RegistryStart) (calls : List RegistryCall) (name : String) :
    ((start.registry.afterAll calls).serve name).map (·.marshaller.element) =
      (match lastNamed? name (start.registered ++ calls.filterMap RegistryCall.registered?) with
        | some b => .ok b
        | none => .error (.unknownBasicType name)) ∧
    ∀ s, (start.registry.afterAll calls).serve name = .ok s →
      ∀ between other t,
        (start.registry.afterAll (calls ++ .arrayOf name :: between)).serve other = .ok t →
        (t.number = s.number ↔
          other = name ∧ ∀ b ∈ between.filterMap RegistryCall.registered?, b.name ≠ name) ∧
        (t.number = s.number → t = s) := by
  have sound : (start.registry.afterAll calls).Sound := start.sound.afterAll calls
  constructor
  · rw [sound.element_serve, ← get?_afterAll _ calls _ start.get?_registry name]
    rfl
  · intro s served between other t later
    have kept := (serve_ok served).2
    have soundAfter := sound.after (.arrayOf name)
    have split : start.registry.afterAll (calls ++ .arrayOf name :: between) =
        ((start.registry.afterAll calls).after (.arrayOf name)).afterAll between := by
      rw [afterAll, List.foldl_append, List.foldl_cons]
      rfl
    rw [split] at later
    rcases soundAfter.kept_or_retired kept between with ⟨spared, still⟩ | ⟨⟨b, hb, same⟩, gone⟩
    · obtain ⟨iff, equal⟩ := (soundAfter.afterAll between).serve_eq_iff still later
      exact ⟨iff.trans (and_iff_left spared).symm, equal⟩
    · have differs := gone.serve_ne later
      exact ⟨iff_of_false differs fun h => h.2 b hb same, fun h => absurd h differs⟩

/-- A short is made an enumeration between two requests for its arrays: the second one gets a marshaller
of its own, for the new type. -/
theorem TypeRegistry.serve_current_replaced :
    let short := BasicType.plain "short" (.ofCode .smallInt) .string
    let level := short.withConverter (.enumByOrdinal "Level" ["Low", "High"])
    let r := (RegistryStart.empty []).registry.afterAll [.register short]
    ∃ s t, r.serve "short" = .ok s ∧ s.marshaller.element = short ∧
      (r.afterAll [.arrayOf "short", .register level]).serve "short" = .ok t ∧
      t.marshaller.element = level ∧ t.number ≠ s.number := by
  intro short level r
  have first : r.serve "short" = .ok ⟨0, ⟨short⟩⟩ := by rfl
  have second : (r.afterAll [.arrayOf "short", .register level]).serve "short" = .ok ⟨1, ⟨level⟩⟩ := by
    rfl
  have history := (serve_current (.empty []) [.register short] "short").2 _ first
    [.register level] "short" _ second
  refine ⟨_, _, first, rfl, second, rfl, fun same => ?_⟩
  exact (history.1.1 same).2 level (by simp [RegistryCall.registered?]) rfl

end SqlDialects
