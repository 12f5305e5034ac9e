import Positional.Feature.Registry
import Mathlib.Data.List.Induction
import Mathlib.Data.List.Nodup

/-!
# Runs of calls to the registry

The registry keeps its features in one dictionary.  Who asks for all features is handed out a copy
and may do with it as they like.  Dictionaries are told apart by their addresses, so a change of one
that was handed out would be a change of the registry if the two had the same address.  They never
have: what the registry answers depends on the features that were registered, in their order, and on
nothing else.
-/

namespace Positional.Registry

variable {registry : Registry} {feature : Feature} {name : String}

/-! ## Features registered one after the other -/

def empty : Registry :=
  ⟨[]⟩

def registerAll (registry : Registry) (features : List Feature) : Registry :=
  features.foldl register registry

theorem registerAll_append (registry : Registry) (first second : List Feature) :
    registry.registerAll (first ++ second) = (registry.registerAll first).registerAll second :=
  List.foldl_append

@[simp] theorem registerAll_singleton (registry : Registry) (feature : Feature) :
    registry.registerAll [feature] = registry.register feature := rfl

/-- The features that come with the program are registered first, with nothing registered yet. -/
theorem registerAll_shipped : empty.registerAll shipped.features = shipped := rfl

theorem map_name_insert (feature : Feature) (features : List Feature) :
    (insert feature features).map Feature.name =
      if feature.name ∈ features.map Feature.name then features.map Feature.name
      else features.map Feature.name ++ [feature.name] := by
  induction features with
  | nil => rfl
  | cons present rest ih =>
      by_cases h : present.name = feature.name
      · simp [insert, h]
      · simp only [insert, if_neg h, List.map_cons, ih, List.mem_cons, Ne.symm h, false_or]
        split <;> rfl

/-- Names keep their order: a name that is registered again keeps its place. -/
theorem names_register (registry : Registry) (feature : Feature) :
    (registry.register feature).names =
      if feature.name ∈ registry.names then registry.names
      else registry.names ++ [feature.name] :=
  map_name_insert feature registry.features

theorem nodup_names_register (h : registry.names.Nodup) (feature : Feature) :
    (registry.register feature).names.Nodup := by
  rw [names_register]
  split
  · exact h
  · rename_i hnew
    rw [← List.concat_eq_append]
    exact h.concat hnew

theorem nodup_names_registerAll (h : registry.names.Nodup) (features : List Feature) :
    (registry.registerAll features).names.Nodup := by
  induction features generalizing registry with
  | nil => exact h
  | cons feature rest ih => exact ih (nodup_names_register h feature)

theorem find?_registerAll_empty (features : List Feature) (name : String) :
    (empty.registerAll features).find? name =
      features.reverse.find? fun feature => feature.name = name := by
  induction features using List.reverseRecOn with
  | nil => rfl
  | append_singleton features last ih =>
      rw [registerAll_append, registerAll_singleton, List.reverse_concat, List.find?_cons]
      by_cases h : last.name = name
      · subst h
        simp [find?_register_self]
      · simp [find?_register_of_ne _ last (Ne.symm h), h, ih]

theorem names_registerAll_empty (features : List Feature) :
    (empty.registerAll features).names = (features.map Feature.name).eraseDups := by
  induction features using List.reverseRecOn with
  | nil => rfl
  | append_singleton features last ih =>
      rw [registerAll_append, registerAll_singleton, names_register, ih, List.map_append,
        List.eraseDups_append]
      simp only [List.mem_eraseDups]
      split
      · simp_all [List.removeAll]
      · simp_all [List.removeAll, List.eraseDups_cons]

/-! ## Dictionaries -/

structure Dictionary where
  entries : List (String × Feature)

namespace Dictionary

def replace (key : String) (feature : Feature) :
    List (String × Feature) → List (String × Feature)
  | [] => [(key, feature)]
  | entry :: rest =>
    if entry.1 = key then (key, feature) :: rest else entry :: replace key feature rest

def set (dictionary : Dictionary) (key : String) (feature : Feature) : Dictionary :=
  ⟨replace key feature dictionary.entries⟩

def get? (dictionary : Dictionary) (key : String) : Option Feature :=
  (dictionary.entries.find? fun entry => entry.1 = key).map Prod.snd

def keys (dictionary : Dictionary) : List String :=
  dictionary.entries.map Prod.fst

def ofRegistry (registry : Registry) : Dictionary :=
  ⟨registry.features.map fun feature => (feature.name, feature)⟩

theorem set_ofRegistry (registry : Registry) (feature : Feature) :
    (ofRegistry registry).set feature.name feature = ofRegistry (registry.register feature) := by
  have hentries : ∀ features : List Feature,
      replace feature.name feature (features.map fun present => (present.name, present)) =
        (insert feature features).map fun present => (present.name, present) := by
    intro features
    induction features with
    | nil => rfl
    | cons present rest ih =>
        rw [List.map_cons, replace, insert, ih]
        split <;> rfl
  exact congrArg Dictionary.mk (hentries registry.features)

theorem get?_ofRegistry (registry : Registry) (name : String) :
    (ofRegistry registry).get? name = registry.find? name := by
  rw [get?, ofRegistry, List.find?_map, Option.map_map]
  exact congrFun Option.map_id _

theorem keys_ofRegistry (registry : Registry) : (ofRegistry registry).keys = registry.names := by
  rw [keys, ofRegistry, List.map_map]
  rfl

end Dictionary

/-! ## Dictionaries at addresses -/

/-- The dictionaries of a program, each at an address. -/
structure Memory where
  dictionaries : List Dictionary
  /-- the address of the dictionary that the registry keeps its features in -/
  own : Nat
  /-- the addresses of the dictionaries that were handed out, in order -/
  handedOut : List Nat

namespace Memory

def load (memory : Memory) (address : Nat) : Dictionary :=
  memory.dictionaries[address]?.getD ⟨[]⟩

def store (memory : Memory) (address : Nat) (dictionary : Dictionary) : Memory :=
  { memory with dictionaries := memory.dictionaries.set address dictionary }

/-- Nothing is registered, and nothing was handed out. -/
def initial : Memory :=
  ⟨[⟨[]⟩], 0, []⟩

def register (memory : Memory) (feature : Feature) : Memory :=
  memory.store memory.own ((memory.load memory.own).set feature.name feature)

def find? (memory : Memory) (name : String) : Option Feature :=
  (memory.load memory.own).get? name

/-- Copy the registry's dictionary to a new address, and hand that address out. -/
def handOut (memory : Memory) : Nat × Memory :=
  (memory.dictionaries.length,
    { memory with
      dictionaries := memory.dictionaries ++ [memory.load memory.own]
      handedOut := memory.handedOut ++ [memory.dictionaries.length] })

def all (memory : Memory) : Dictionary :=
  memory.handOut.2.load memory.handOut.1

/-- Change the dictionary that was handed out as the one of this number. -/
def change (memory : Memory) (number : Nat) (become : Dictionary → Dictionary) : Memory :=
  match memory.handedOut[number]? with
  | some address => memory.store address (become (memory.load address))
  | none => memory

end Memory

/-- What can be done to the registry and to the dictionaries that it handed out. -/
inductive Call where
  | register (feature : Feature)
  | find (name : String)
  | all
  | change (number : Nat) (become : Dictionary → Dictionary)

def Call.registered : Call → List Feature
  | register feature => [feature]
  | _ => []

namespace Memory

def step (memory : Memory) : Call → Memory
  | .register feature => memory.register feature
  | .find _ => memory
  | .all => memory.handOut.2
  | .change number become => memory.change number become

def after (memory : Memory) (calls : List Call) : Memory :=
  calls.foldl step memory

def shipped : Memory :=
  initial.after (Registry.shipped.features.map Call.register)

/-- Whether the registry's dictionary holds the features of a registry at an address that was not
handed out. -/
structure Keeps (memory : Memory) (registry : Registry) : Prop where
  allocated : memory.own < memory.dictionaries.length
  hidden : memory.own ∉ memory.handedOut
  content : memory.load memory.own = .ofRegistry registry

variable {memory : Memory} {address : Nat}

theorem load_store_self (h : address < memory.dictionaries.length) (dictionary : Dictionary) :
    (memory.store address dictionary).load address = dictionary := by
  rw [load, store, List.getElem?_set_self h, Option.getD_some]

theorem load_store_of_ne {other : Nat} (h : address ≠ other) (dictionary : Dictionary) :
    (memory.store address dictionary).load other = memory.load other := by
  rw [load, store, List.getElem?_set_ne h, load]

theorem load_handOut (h : address < memory.dictionaries.length) :
    memory.handOut.2.load address = memory.load address := by
  rw [load, handOut, List.getElem?_append_left h, load]

theorem all_eq_load (memory : Memory) : memory.all = memory.load memory.own := by
  rw [all, load, handOut, List.getElem?_concat_length, Option.getD_some]

/-! ## What a call keeps -/

theorem keeps_initial : initial.Keeps empty where
  allocated := by decide
  hidden := List.not_mem_nil
  content := rfl

theorem Keeps.register (h : memory.Keeps registry) (feature : Feature) :
    (memory.register feature).Keeps (registry.register feature) where
  allocated := by
    rw [Memory.register, store, List.length_set]
    exact h.allocated
  hidden := h.hidden
  content := by
    rw [← Dictionary.set_ofRegistry, ← h.content]
    exact load_store_self h.allocated _

theorem Keeps.handOut (h : memory.Keeps registry) : memory.handOut.2.Keeps registry where
  allocated := by
    rw [Memory.handOut, List.length_append]
    exact Nat.lt_add_right _ h.allocated
  hidden := by
    intro hmem
    rcases List.mem_append.1 hmem with hold | hnew
    · exact h.hidden hold
    · exact Nat.ne_of_lt h.allocated (List.mem_singleton.1 hnew)
  content := (load_handOut h.allocated).trans h.content

theorem Keeps.change (h : memory.Keeps registry) (number : Nat)
    (become : Dictionary → Dictionary) : (memory.change number become).Keeps registry := by
  unfold Memory.change
  split
  · rename_i address haddress
    have hne : address ≠ memory.own := fun heq => h.hidden (heq ▸ List.mem_of_getElem? haddress)
    refine ⟨?_, h.hidden, (load_store_of_ne hne _).trans h.content⟩
    rw [store, List.length_set]
    exact h.allocated
  · exact h

theorem Keeps.step (h : memory.Keeps registry) (call : Call) :
    (memory.step call).Keeps (registry.registerAll call.registered) := by
  cases call with
  | register feature => exact h.register feature
  | find name => exact h
  | all => exact h.handOut
  | change number become => exact h.change number become

theorem Keeps.after (h : memory.Keeps registry) (calls : List Call) :
    (memory.after calls).Keeps (registry.registerAll (calls.flatMap Call.registered)) := by
  induction calls generalizing memory registry with
  | nil => exact h
  | cons call rest ih =>
      rw [List.flatMap_cons, registerAll_append]
      exact ih (h.step call)

theorem flatMap_registered (features : List Feature) :
    (features.map Call.register).flatMap Call.registered = features := by
  rw [List.flatMap_map]
  exact List.flatMap_singleton' features

theorem keeps_shipped : shipped.Keeps Registry.shipped := by
  have h := keeps_initial.after (Registry.shipped.features.map Call.register)
  rwa [flatMap_registered, registerAll_shipped] at h

/-! ## What is answered -/

theorem Keeps.find? (h : memory.Keeps registry) (name : String) :
    memory.find? name = registry.find? name := by
  rw [Memory.find?, h.content, Dictionary.get?_ofRegistry]

theorem Keeps.all (h : memory.Keeps registry) : memory.all = .ofRegistry registry :=
  (all_eq_load memory).trans h.content

end Memory

/-- After any calls, the feature under a name is the one that was registered last under it, if there
is one; all features are one for each name, in order of first registration; both are as after the
registrations alone; and one more registration changes neither what is found under other names nor
the order of the names. -/
theorem answers_after_calls (calls : List Call) :
    let memory := Memory.shipped.after calls
    let registry := shipped.registerAll (calls.flatMap Call.registered)
    let registered := shipped.features ++ calls.flatMap Call.registered
    let alone := Memory.shipped.after ((calls.flatMap Call.registered).map Call.register)
    (∀ name, memory.find? name = registry.find? name ∧
      registry.find? name = registered.reverse.find? fun feature => feature.name = name) ∧
    (memory.all.keys = registry.names ∧
      registry.names = (registered.map Feature.name).eraseDups ∧ registry.names.Nodup ∧
      ∀ name, memory.all.get? name = registry.find? name) ∧
    ((∀ name, memory.find? name = alone.find? name) ∧ memory.all = alone.all) ∧
    ∀ feature, let next := memory.after [.register feature]
      (∀ name, name ≠ feature.name → next.find? name = memory.find? name) ∧
      next.all.keys = if feature.name ∈ memory.all.keys then memory.all.keys
        else memory.all.keys ++ [feature.name] := by
  intro memory registry registered alone
  have hmemory : memory.Keeps registry := Memory.keeps_shipped.after calls
  have halone : alone.Keeps registry := by
    have h := Memory.keeps_shipped.after ((calls.flatMap Call.registered).map Call.register)
    rwa [Memory.flatMap_registered] at h
  have hregistry : empty.registerAll registered = registry := by
    rw [registerAll_append, registerAll_shipped]
  have hkeys : memory.all.keys = registry.names := by
    rw [hmemory.all, Dictionary.keys_ofRegistry]
  refine ⟨fun name => ⟨hmemory.find? name, ?_⟩, ⟨hkeys, ?_, ?_, fun name => ?_⟩,
    ⟨fun name => ?_, ?_⟩, fun feature => ?_⟩
  · rw [← hregistry]
    exact find?_registerAll_empty registered name
  · rw [← hregistry]
    exact names_registerAll_empty registered
  · exact nodup_names_registerAll (by decide) _
  · rw [hmemory.all, Dictionary.get?_ofRegistry]
  · rw [hmemory.find?, halone.find?]
  · rw [hmemory.all, halone.all]
  · intro next
    have hnext : next.Keeps (registry.register feature) := hmemory.after [.register feature]
    refine ⟨fun name hname => ?_, ?_⟩
    · rw [hnext.find?, hmemory.find?, find?_register_of_ne _ _ hname]
    · rw [hnext.all, Dictionary.keys_ofRegistry, hkeys, names_register]

/-- A feature is replaced in its place, and a copy that is emptied, or that another feature is put
into, is a copy. -/
theorem answers_after_calls_emptied :
    let replaced := Feature.unlisted "format" "Another format" Handler.parse
    let added := Feature.unlisted "added" "One more feature" Handler.version
    let memory := Memory.shipped.after
      [.all, .register replaced, .change 0 fun _ => ⟨[]⟩, .register added, .all,
        .change 1 fun copy => copy.set "parse" added, .find "parse"]
    memory.find? "format" = some replaced ∧ memory.find? "parse" = some Feature.parse ∧
      memory.find? "missing" = none ∧
      memory.all.keys = ["version", "format", "parse", "added"] ∧
      (memory.after [.register Feature.format]).find? "added" = some added := by
  intro replaced added memory
  obtain ⟨hfind, ⟨hkeys, -⟩, -, hnext⟩ := answers_after_calls
    [.all, .register replaced, .change 0 fun _ => ⟨[]⟩, .register added, .all,
      .change 1 fun copy => copy.set "parse" added, .find "parse"]
  have hother : "added" ≠ Feature.format.name := by decide
  refine ⟨(hfind _).1.trans rfl, (hfind _).1.trans rfl, (hfind _).1.trans rfl,
    hkeys.trans rfl, ?_⟩
  exact ((hnext Feature.format).1 "added" hother).trans ((hfind _).1.trans rfl)

end Positional.Registry
