import SchemaLint.Settings.Loader

/-! What loading an assignment file adds to an environment. Of a loader it is known that it copies the
assignments of the file one by one: variables that are there keep their values, and it goes no further
than to a variable that cannot be set. Of the file it is known that it assigns to the same variables
when it is read again.
-/
namespace SchemaLint

namespace Environment

/-- Whether an environment goes on as another one that has gained variables, all of allowed names. -/
structure Grows (before after : Environment) (allowed : Text → Prop) : Prop where
  keeps : ∀ name value, before.get? name = some value → after.get? name = some value
  gains : ∀ name value, before.get? name = none → after.get? name = some value → allowed name

inductive Unsettable where
  | zeroCharacter
  | equalsSign
  deriving DecidableEq, Repr

/-- What keeps a variable from being set: names and values end at a zero character, and names at an
equals sign. -/
def fault? (name value : Text) : Option Unsettable :=
  if name.contains '\x00' || value.contains '\x00' then some .zeroCharacter
  else if name.contains '=' then some .equalsSign
  else none

def Unsettable.exception (fault : Unsettable) : Exception where
  className := .valueError
  message :=
    match fault with
    | zeroCharacter => "embedded null byte".toList
    | equalsSign => "illegal environment variable name".toList

/-- Sets variables that are not there yet, one after the other, up to one that cannot be set. -/
def provideAll (environment : Environment) : List (Text × Text) → Environment × Option Unsettable
  | [] => (environment,none)
  | (name,value) :: rest =>
    if environment.isSet name then provideAll environment rest
    else
      match fault? name value with
      | some fault => (environment,some fault)
      | none => provideAll (environment.set name value) rest

variable {before middle after environment : Environment} {allowed larger : Text → Prop}
  {assignments front rest : List (Text × Text)} {name value : Text}

theorem Grows.refl (environment : Environment) (allowed : Text → Prop) :
    Grows environment environment allowed := by
  refine ⟨fun name value found => found,?_⟩
  intro name value absent found
  rw [absent] at found
  cases found

theorem Grows.trans (first : Grows before middle allowed) (second : Grows middle after allowed) :
    Grows before after allowed := by
  refine ⟨fun name value found => second.keeps name value (first.keeps name value found),?_⟩
  intro name value absent found
  cases between : middle.get? name with
  | none => exact second.gains name value between found
  | some other => exact first.gains name other absent between

theorem Grows.weaken (growth : Grows before after allowed)
    (wider : ∀ name, allowed name → larger name) : Grows before after larger :=
  ⟨growth.keeps,fun name value absent found => wider name (growth.gains name value absent found)⟩

theorem Grows.isSet (growth : Grows before after allowed) (present : before.isSet name = true) :
    after.isSet name = true := by
  obtain ⟨value,found⟩ := Option.isSome_iff_exists.mp present
  apply Option.isSome_iff_exists.mpr
  exact ⟨value,growth.keeps name value found⟩

theorem lookup_filter_ne (bindings : List (Text × Text)) {name other : Text} (apart : other ≠ name) :
    (bindings.filter (·.1 ≠ name)).lookup other = bindings.lookup other := by
  induction bindings with
  | nil => rfl
  | cons binding bindings ih =>
    obtain ⟨key,value⟩ := binding
    by_cases same : key = name
    · have differs : (other == key) = false := by simpa [same] using apart
      rw [List.filter_cons_of_neg (by simpa using same),List.lookup_cons,differs,ih]
    · rw [List.filter_cons_of_pos (by simpa using same),List.lookup_cons,List.lookup_cons,ih]

theorem get?_set (environment : Environment) (name value other : Text) :
    (environment.set name value).get? other =
      if other = name then some value else environment.get? other := by
  by_cases same : other = name
  · simp [set,get?,same]
  · have differs : (other == name) = false := by simpa using same
    unfold set unset get?
    rw [if_neg same,List.lookup_cons,differs]
    exact lookup_filter_ne environment.bindings same

theorem get?_unset (environment : Environment) (name other : Text) :
    (environment.unset name).get? other =
      if other = name then none else environment.get? other := by
  split
  · next same =>
    apply List.lookup_eq_none_iff.mpr
    intro binding kept
    have apart : binding.1 ≠ name := by simpa using (List.mem_filter.mp kept).2
    rw [same]
    simpa using apart.symm
  · next apart => exact lookup_filter_ne environment.bindings apart

theorem get?_eq_none_iff : environment.get? name = none ↔ ¬ environment.isSet name = true := by
  simp [isSet]

theorem isSet_set (environment : Environment) (name value : Text) :
    (environment.set name value).isSet name = true := by
  simp [isSet,get?_set]

theorem grows_set (value : Text) (absent : ¬ environment.isSet name = true) (permitted : allowed name) :
    Grows environment (environment.set name value) allowed := by
  constructor
  · intro other found there
    have apart : other ≠ name := by
      rintro rfl
      rw [get?_eq_none_iff.mpr absent] at there
      cases there
    rw [get?_set,if_neg apart,there]
  · intro other found missing there
    rw [get?_set] at there
    split at there
    · next same => exact same ▸ permitted
    · rw [missing] at there
      cases there

theorem provideAll_grows (environment : Environment) (assignments : List (Text × Text)) :
    Grows environment (environment.provideAll assignments).1 (· ∈ assignments.map Prod.fst) := by
  fun_induction provideAll environment assignments with
  | case1 environment => exact Grows.refl environment _
  | case2 environment name value rest present ih =>
    exact ih.weaken fun other => List.mem_cons_of_mem name
  | case3 environment name value rest absent fault refused => exact Grows.refl environment _
  | case4 environment name value rest absent settable ih =>
    have later := ih.weaken fun other => List.mem_cons_of_mem name
    exact (grows_set value absent List.mem_cons_self).trans later

theorem provideAll_append (present : ∀ name ∈ front.map Prod.fst, environment.isSet name = true) :
    environment.provideAll (front ++ rest) = environment.provideAll rest := by
  induction front with
  | nil => rfl
  | cons assignment front ih =>
    rw [List.map_cons,List.forall_mem_cons] at present
    rw [List.cons_append,provideAll,if_pos present.1,ih present.2]

theorem provideAll_of_isSet (present : ∀ name ∈ assignments.map Prod.fst,
    environment.isSet name = true) : environment.provideAll assignments = (environment,none) := by
  rw [← List.append_nil assignments,provideAll_append present,provideAll]

/-- Where the providing stops: the first variable that is not there afterwards is given a value that
cannot be set. -/
structure Stops (assignments : List (Text × Text)) (after : Environment) (name value : Text)
    (fault : Unsettable) : Prop where
  first : assignments.find? (fun assignment => !after.isSet assignment.1) = some (name,value)
  refused : fault? name value = some fault

theorem Stops.cons {fault : Unsettable} (stops : Stops assignments after name value fault)
    {other given : Text} (present : after.isSet other = true) :
    Stops ((other,given) :: assignments) after name value fault :=
  ⟨by rw [List.find?_cons_of_neg (by simp [present]),stops.first],stops.refused⟩

theorem Stops.absent {fault : Unsettable} (stops : Stops assignments after name value fault) :
    after.get? name = none := by
  have missing := List.find?_some stops.first
  simpa [isSet] using missing

theorem provideAll_cases (environment : Environment) (assignments : List (Text × Text)) :
    (∃ after, environment.provideAll assignments = (after,none) ∧
      ∀ name ∈ assignments.map Prod.fst, after.isSet name = true) ∨
    ∃ after name value fault, environment.provideAll assignments = (after,some fault) ∧
      Stops assignments after name value fault := by
  fun_induction provideAll environment assignments with
  | case1 environment => exact .inl ⟨environment,rfl,by simp⟩
  | case2 environment name value rest present ih =>
    have growth := provideAll_grows environment rest
    rcases ih with ⟨after,provided,all⟩ | ⟨after,stop,refused,fault,provided,stops⟩
    · rw [provided] at growth
      exact .inl ⟨after,provided,List.forall_mem_cons.mpr ⟨growth.isSet present,all⟩⟩
    · rw [provided] at growth
      exact .inr ⟨after,stop,refused,fault,provided,stops.cons (growth.isSet present)⟩
  | case3 environment name value rest absent fault refused =>
    exact .inr ⟨environment,name,value,fault,rfl,List.find?_cons_of_pos (by simp [absent]),refused⟩
  | case4 environment name value rest absent settable ih =>
    have growth := provideAll_grows (environment.set name value) rest
    have present := isSet_set environment name value
    rcases ih with ⟨after,provided,all⟩ | ⟨after,stop,refused,fault,provided,stops⟩
    · rw [provided] at growth
      exact .inl ⟨after,provided,List.forall_mem_cons.mpr ⟨growth.isSet present,all⟩⟩
    · rw [provided] at growth
      exact .inr ⟨after,stop,refused,fault,provided,stops.cons (growth.isSet present)⟩

/-- What stopped once stops again unless the variable is given a value that can be set. -/
theorem Stops.provideAll_again {fault : Unsettable} (stops : Stops assignments after name value fault)
    {others : List (Text × Text)} (same : others.map Prod.fst = assignments.map Prod.fst) :
    ∃ other, others.lookup name = some other ∧
      match fault? name other with
      | none => (after.provideAll others).1.get? name = some other
      | some stop => after.provideAll others = (after,some stop) := by
  obtain ⟨missing,front,rest,rfl,there⟩ := List.find?_eq_some_iff_append.mp stops.first
  have absent : ¬ after.isSet name = true := by simpa using missing
  rw [List.map_append,List.map_cons] at same
  obtain ⟨first,behind,rfl,sameFront,sameBehind⟩ := List.map_eq_append_iff.mp same
  obtain ⟨⟨again,other⟩,behind,rfl,sameName,-⟩ := List.map_eq_cons_iff.mp sameBehind
  obtain rfl : again = name := sameName
  have set : ∀ earlier ∈ first.map Prod.fst, after.isSet earlier = true := by
    rw [sameFront]
    intro earlier member
    obtain ⟨assignment,kept,rfl⟩ := List.mem_map.mp member
    simpa using there assignment kept
  have notFirst : first.lookup again = none := by
    rw [List.lookup_eq_none_iff]
    intro assignment member
    rw [bne_iff_ne]
    rintro rfl
    exact absent (set _ (List.mem_map_of_mem member))
  refine ⟨other,by rw [List.lookup_append,notFirst,List.lookup_cons_self]; rfl,?_⟩
  rw [provideAll_append set,provideAll,if_neg absent]
  split
  · next settable =>
    rw [settable]
    apply (provideAll_grows (after.set again other) behind).keeps
    rw [get?_set,if_pos rfl]
  · next stop refused => rw [refused]

theorem get?_provideAll (first : assignments.lookup name = some value)
    (absent : environment.get? name = none)
    (unstopped : (environment.provideAll assignments).2 = none) :
    (environment.provideAll assignments).1.get? name = some value := by
  fun_induction provideAll environment assignments with
  | case1 environment => cases first
  | case2 environment other given rest present ih =>
    have apart : (name == other) = false := by
      rw [beq_eq_false_iff_ne]
      rintro rfl
      exact get?_eq_none_iff.mp absent present
    rw [List.lookup_cons,apart] at first
    exact ih first absent unstopped
  | case3 environment other given rest missing fault refused => cases unstopped
  | case4 environment other given rest missing settable ih =>
    by_cases same : name = other
    · subst same
      rw [List.lookup_cons_self] at first
      cases first
      apply (provideAll_grows (environment.set name value) rest).keeps
      rw [get?_set,if_pos rfl]
    · rw [List.lookup_cons,beq_false_of_ne same] at first
      refine ih first ?_ unstopped
      rw [get?_set,if_neg same,absent]

end Environment

namespace Settings
open Environment

/-- The assignments of a file in an environment, which their values may refer to, or the exception of a
file that cannot be read. -/
abbrev Reader := Environment → Option Bytes → Except Exception (List (Text × Text))

namespace Reader

def Assigns (reader : Reader) (environment : Environment) (file : Option Bytes) (name : Text) : Prop :=
  ∃ assignments, reader environment file = .ok assignments ∧ name ∈ assignments.map Prod.fst

def value? (reader : Reader) (environment : Environment) (file : Option Bytes) (name : Text) :
    Option Text :=
  (reader environment file).toOption.bind (·.lookup name)

/-- Whether a variable stops a file that is loaded: the first one of those it assigns to that is not
there afterwards. -/
def Stops (reader : Reader) (before after : Environment) (file : Option Bytes) (name value : Text)
    (fault : Unsettable) : Prop :=
  ∃ assignments, reader before file = .ok assignments ∧
    Environment.Stops assignments after name value fault

/-- Whether a file that could be read can be read once it has added to the environment, and assigns to
the same variables in the same order then, unless it has turned itself off. -/
def Steady (reader : Reader) : Prop :=
  ∀ before after file assignments, reader before file = .ok assignments →
    Grows before after (reader.Assigns before file) →
    reader after file = .ok [] ∨ ∃ others, reader after file = .ok others ∧
      others.map Prod.fst = assignments.map Prod.fst

end Reader

/-- Whether a loader copies what is read into the environment, variables that are there excepted. -/
def Loader.Copies (loader : Loader) (reader : Reader) : Prop :=
  ∀ environment file, loader.load environment file =
    match reader environment file with
    | .error raised => (environment,some raised)
    | .ok assignments =>
      let (after,fault) := environment.provideAll assignments
      (after,fault.map Unsettable.exception)

def Loader.copying (reader : Reader) : Loader where
  load := fun environment file =>
    match reader environment file with
    | .error raised => (environment,some raised)
    | .ok assignments =>
      let (after,fault) := environment.provideAll assignments
      (after,fault.map Unsettable.exception)
  warnings := fun _ _ => []

theorem Loader.copying_copies (reader : Reader) : (copying reader).Copies reader :=
  fun _ _ => rfl

end Settings
end SchemaLint
