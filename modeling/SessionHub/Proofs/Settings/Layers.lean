import Mathlib
import SessionHub.Proofs.Settings.Fields
import SessionHub.Settings.Load

/-!
# Three layers of settings

Settings are loaded from a file that holds an object, over the defaults and under the environment.
Field by field the topmost layer counts that has a value: the **variable** of the field, if it holds one;
else what the file **gives** under its name, the last value written and not null; else the default. So
loading succeeds exactly if whatever the file gives for a field is of the field's kind and the settings
that come of it are not refused (`load_layers`).

On its way a value passes through the defaults written as a document, two settlings and a merge. What the
group's reader finds under a name in the end is what the file gives, up to the order of names inside of
it, which matters to no value of a kind.
-/

namespace SessionHub

open Json (Mismatch settledMembers mergeMembers memberOf? overlay)

variable {α : Type}

/-! ## Layers -/

/-- What the environment holds for a field. -/
def Field.held (env : Environment) (f : Field α) : Option Json :=
  f.above.bind fun (name, holds) => (env name).bind holds

/-- What a document gives under a name of a group: the last value that was written, unless it is null. -/
def given (document : Json) (group name : String) : Option Json :=
  match (document.member? group).bind (·.member? name) with
  | none | some .null => none
  | some value => some value

/-- The value of a field: what the environment holds, else what the file gives, else the default. -/
def Field.layered (env : Environment) (document : Json) (group : String) (defaults : α) (f : Field α) :
    Json :=
  ((f.held env).or (given document group f.name)).getD (f.value defaults)

namespace Settings

/-- Whether all that a document gives for fields is of their kinds. -/
structure Typed (document : Json) : Prop where
  server : ∀ f ∈ ServerSettings.fields, ∀ v, given document "server" f.name = some v → f.kind.Admits v
  cluster : ∀ f ∈ ClusterSettings.fields, ∀ v, given document "cluster" f.name = some v → f.kind.Admits v
  logging : ∀ f ∈ LoggingSettings.fields, ∀ v, given document "logging" f.name = some v → f.kind.Admits v

/-- **Layered settings**: every field has the value of its topmost layer. -/
structure Layered (env : Environment) (document : Json) (s : Settings) : Prop where
  server : ∀ f ∈ ServerSettings.fields, f.value s.server = f.layered env document "server" {}
  cluster : ∀ f ∈ ClusterSettings.fields, f.value s.cluster = f.layered env document "cluster" {}
  logging : ∀ f ∈ LoggingSettings.fields, f.value s.logging = f.layered env document "logging" {}

end Settings

/-- Whether what stands under the name of a group is nothing, null or an object. -/
def IsGroup : Option Json → Prop
  | none | some .null | some (.obj _) => True
  | _ => False

/-! ## What the file gives -/

/-- The members of a group. -/
def groupMembers : Option Json → List (String × Json)
  | some (.obj members) => members
  | _ => []

theorem given_eq {document : Json} {group : String} (isGroup : IsGroup (document.member? group))
    (name : String) : given document group name
      = overlay none (memberOf? name (groupMembers (document.member? group))) := by
  rw [given]
  cases found : document.member? group with
  | none => rfl
  | some v =>
    rw [found] at isGroup
    cases v with
    | null => rfl
    | obj members =>
      rw [Option.bind_some, Json.member?, groupMembers]
      cases memberOf? name members with
      | none => rfl
      | some v => cases v <;> rfl
    | _ => exact isGroup.elim

/-- Values of a kind have no names inside, and there is no merging with them. -/
theorem Kind.Admits.settled {k : Kind} {v : Json} (h : k.Admits v) : v.settled = v := by
  cases k with
  | text => obtain ⟨t, rfl⟩ := h; rfl
  | flag => obtain ⟨b, rfl⟩ := h; rfl
  | number bound => obtain ⟨n, _, rfl⟩ := h; rfl

theorem Kind.Admits.of_settled {k : Kind} {v : Json} (h : k.Admits v.settled) : v.settled = v := by
  cases v with
  | arr items =>
    rw [Json.settled] at h
    cases k <;> obtain ⟨_, same⟩ := h <;> simp [Json.nat] at same
  | obj members =>
    rw [Json.settled] at h
    cases k <;> obtain ⟨_, same⟩ := h <;> simp [Json.nat] at same
  | _ => rfl

theorem settled_ne_null {v : Json} (there : v ≠ .null) : v.settled ≠ .null := by
  cases v with
  | null => exact absurd rfl there
  | arr items => simp [Json.settled]
  | obj members => simp [Json.settled]
  | _ => simp [Json.settled]

theorem Kind.Admits.merge {k : Kind} {v : Json} (h : k.Admits v) (upper : Json) :
    v.merge upper = upper := by
  cases k with
  | text => obtain ⟨t, rfl⟩ := h; cases upper <;> rfl
  | flag => obtain ⟨b, rfl⟩ := h; cases upper <;> rfl
  | number bound => obtain ⟨n, _, rfl⟩ := h; cases upper <;> rfl

/-- One object over another, as it reaches the reader of settings. -/
def laid (lower upper : List (String × Json)) : List (String × Json) :=
  settledMembers [] (mergeMembers (settledMembers [] lower) (settledMembers [] upper))

theorem laid_eq (lower upper : List (String × Json)) :
    ((Json.obj lower).settled.merge (Json.obj upper).settled).settled = .obj (laid lower upper) := by
  rw [Json.settled_obj, Json.settled_obj, Json.merge, Json.settled_obj]
  rfl

theorem distinct_laid (lower upper : List (String × Json)) : ((laid lower upper).map (·.1)).Nodup :=
  (Json.ordered_settled _).distinct

theorem lookup_laid (lower upper : List (String × Json)) (k : String) : (laid lower upper).lookup k
    = (overlay ((memberOf? k lower).map Json.settled) ((memberOf? k upper).map Json.settled)).map
        Json.settled := by
  have ordered := Json.ordered_mergeMembers (Json.ordered_settled lower) (settledMembers [] upper)
  rw [laid, Json.lookup_settled, Json.memberOf?_eq_lookup ordered.distinct,
    Json.lookup_mergeMembers (Json.ordered_settled upper).distinct, Json.lookup_settled,
    Json.lookup_settled]

/-- **A group over its defaults**, where the file has an object or nothing at all. -/
theorem lookup_laid_group {lower upper defaults : List (String × Json)} {group : String}
    (below : memberOf? group lower = some (.obj defaults)) (isGroup : IsGroup (memberOf? group upper)) :
    (laid lower upper).lookup group
      = some (.obj (laid defaults (groupMembers (memberOf? group upper)))) := by
  have alone : ((Json.obj defaults).settled).settled = .obj (laid defaults []) := by
    rw [Json.settled_obj, Json.settled_obj, laid, Json.settledMembers, Json.mergeMembers]
  rw [lookup_laid, below]
  cases found : memberOf? group upper with
  | none => exact congrArg some alone
  | some v =>
    rw [found] at isGroup
    cases v with
    | null => exact congrArg some alone
    | obj members =>
      have object : (Json.obj members).settled ≠ .null := settled_ne_null (by simp)
      rw [Option.map_some, Option.map_some, Json.overlay_of_ne_null object, Option.elim_some,
        Option.map_some, laid_eq, groupMembers]
    | _ => exact isGroup.elim

/-- **A field over its default**: what stands there is what the file gives. -/
theorem lookup_laid_field {lower upper : List (String × Json)} {name : String} {k : Kind} {v : Json}
    (below : memberOf? name lower = some v) (scalar : k.Admits v) : (laid lower upper).lookup name
      = some (((overlay none (memberOf? name upper)).map fun v => v.settled.settled).getD v) := by
  rw [lookup_laid, below, Option.map_some, scalar.settled]
  cases memberOf? name upper with
  | none => exact congrArg some scalar.settled
  | some u =>
    by_cases null : u = .null
    · subst null
      exact congrArg some scalar.settled
    · rw [Option.map_some, Json.overlay_of_ne_null (settled_ne_null null), Json.overlay_of_ne_null null,
        Option.elim_some, scalar.merge, Option.map_some]
      rfl

/-- What is laid over a default is of the field's kind exactly if what the file gives is, and then it is
that. -/
theorem admits_laid {k : Kind} {default : Json} (scalar : k.Admits default) (found : Option Json)
    (w : Json) :
    (k.Admits ((found.map fun v => v.settled.settled).getD default) ∧
        w = (found.map fun v => v.settled.settled).getD default) ↔
      (∀ v, found = some v → k.Admits v) ∧ w = found.getD default := by
  cases found with
  | none => simp [scalar]
  | some v =>
    simp only [Option.map_some, Option.getD_some, Option.some.injEq, forall_eq']
    constructor
    · rintro ⟨admitted, rfl⟩
      have once := admitted.of_settled
      rw [once] at admitted ⊢
      have same := admitted.of_settled
      exact ⟨same ▸ admitted, same⟩
    · rintro ⟨admitted, rfl⟩
      rw [admitted.settled, admitted.settled]
      exact ⟨admitted, rfl⟩

/-! ## Groups -/

/-- The members of a group as they reach its reader: the file's over the defaults. -/
def laidGroup (document : Json) (group : String) : List (String × Json) :=
  laid (groupMembers (({} : Settings).toJson.member? group)) (groupMembers (document.member? group))

theorem distinct_laidGroup (document : Json) (group : String) :
    ((laidGroup document group).map (·.1)).Nodup := distinct_laid ..

/-- Whether fields stand with their defaults in a group of the defaults. -/
structure Stands (group : String) (fields : List (Field α)) (defaults : α) : Prop where
  below : ∀ f ∈ fields,
    memberOf? f.name (groupMembers (({} : Settings).toJson.member? group)) = some (f.value defaults)
  scalar : ∀ f ∈ fields, f.kind.Admits (f.value defaults)

section Groups

variable {settings : List (Setting α)} {fields : List (Field α)} {defaults : α} {group : String}
  {document : Json}

theorem Stands.lookup (stands : Stands group fields defaults)
    (isGroup : IsGroup (document.member? group)) {f : Field α} (hf : f ∈ fields) :
    (laidGroup document group).lookup f.name
      = some (((given document group f.name).map fun v => v.settled.settled).getD (f.value defaults)) := by
  rw [given_eq isGroup]
  exact lookup_laid_field (stands.below f hf) (stands.scalar f hf)

/-- **A group is read exactly if the file gives its fields values of their kinds**, and then it shows
what the file gives. -/
theorem Faithful.group_iff (F : Faithful settings (fields.map Field.aspect))
    (stands : Stands group fields defaults) (isGroup : IsGroup (document.member? group)) (g : α) :
    takeMembers settings defaults (laidGroup document group) = .ok g ↔
      (∀ f ∈ fields, ∀ v, given document group f.name = some v → f.kind.Admits v) ∧
        ∀ f ∈ fields, f.value g = (given document group f.name).getD (f.value defaults) := by
  have complete : ∀ a ∈ fields.map Field.aspect, (laidGroup document group).lookup a.name
      = some (((laidGroup document group).lookup a.name).getD .null) := by
    intro a ha
    obtain ⟨f, hf, rfl⟩ := List.mem_map.mp ha
    rw [Field.aspect, stands.lookup isGroup hf, Option.getD_some]
  rw [F.take_iff (distinct_laidGroup ..) complete, List.forall_mem_map, ← forall₂_and]
  refine forall₂_congr fun f hf => ?_
  rw [Field.aspect, stands.lookup isGroup hf, Option.getD_some]
  exact admits_laid (stands.scalar f hf) _ _

/-- **Whatever a file gives of the right kinds, there is a group of it.** -/
theorem Faithful.exists_group (F : Faithful settings (fields.map Field.aspect))
    (stands : Stands group fields defaults) (isGroup : IsGroup (document.member? group))
    (typed : ∀ f ∈ fields, ∀ v, given document group f.name = some v → f.kind.Admits v) :
    ∃ g, ∀ f ∈ fields, f.value g = (given document group f.name).getD (f.value defaults) := by
  have admitted : ∀ a ∈ fields.map Field.aspect, ∀ v,
      (laidGroup document group).lookup a.name = some v → a.admits v := by
    intro a ha v here
    obtain ⟨f, hf, rfl⟩ := List.mem_map.mp ha
    obtain rfl := Option.some.inj ((stands.lookup isGroup hf).symm.trans here)
    exact ((admits_laid (stands.scalar f hf) _ _).mpr ⟨typed f hf, rfl⟩).1
  obtain ⟨g, taken⟩ := F.exists_take (distinct_laidGroup ..) admitted defaults
  exact ⟨g, ((F.group_iff stands isGroup g).mp taken).2⟩

end Groups

theorem ServerSettings.stands : Stands "server" fields {} where
  below := by simp [fields, Settings.toJson, Json.member?, memberOf?, groupMembers]
  scalar := by
    simp only [fields, List.forall_mem_cons]
    exact ⟨⟨_, rfl⟩, ⟨_, by decide, rfl⟩, ⟨_, by decide, rfl⟩, ⟨_, by decide, rfl⟩,
      ⟨_, by decide, rfl⟩, ⟨_, by decide, rfl⟩, List.forall_mem_nil _⟩

theorem ClusterSettings.stands : Stands "cluster" fields {} where
  below := by simp [fields, Settings.toJson, Json.member?, memberOf?, groupMembers]
  scalar := by
    simp only [fields, List.forall_mem_cons]
    exact ⟨⟨_, rfl⟩, ⟨_, by decide, rfl⟩, ⟨_, by decide, rfl⟩, ⟨_, rfl⟩, ⟨_, rfl⟩,
      ⟨_, by decide, rfl⟩, List.forall_mem_nil _⟩

theorem LoggingSettings.stands : Stands "logging" fields {} where
  below := by simp [fields, Settings.toJson, Json.member?, memberOf?, groupMembers]
  scalar := by
    simp only [fields, List.forall_mem_cons]
    exact ⟨⟨_, rfl⟩, ⟨_, rfl⟩, List.forall_mem_nil _⟩

/-! ## The file -/

/-- An environment in which no variable is set. -/
def noVariables : Environment := fun _ => none

theorem Field.layered_noVariables (f : Field α) (document : Json) (group : String) (defaults : α) :
    f.layered noVariables document group defaults
      = (given document group f.name).getD (f.value defaults) := by
  have unset : f.held noVariables = none := by
    rw [Field.held]
    cases f.above <;> rfl
  rw [Field.layered, unset, Option.none_or]

namespace Settings

/-- The names of the groups. -/
def groupNames : List String := ["server", "cluster", "logging"]

variable {content : String} {members : List (String × Json)}

theorem ofFile_eq (read : Json.read content = .ok (.obj members)) : ofFile (.text content)
    = (takeMembers groups {} (laid (groupMembers (some ({} : Settings).toJson)) members)).mapError
        fun m => .json { cause := .shape m } := by
  have standard : ({} : Settings).toJson = .obj (groupMembers (some ({} : Settings).toJson)) := rfl
  rw [ofFile, read]
  show ofDocument _ = _
  rw [ofDocument, standard, laid_eq]
  rfl

theorem mapError_eq_ok {ε ε' : Type} {change : ε → ε'} {result : Except ε α} {x : α} :
    result.mapError change = .ok x ↔ result = .ok x := by
  cases result <;> simp [Except.mapError]

/-- **A file is read exactly if what it gives is of the fields' kinds**, and then every field has what
the file gives, or its default. -/
theorem ofFile_iff (read : Json.read content = .ok (.obj members))
    (grouped : ∀ g ∈ groupNames, IsGroup ((Json.obj members).member? g)) (s : Settings) :
    ofFile (.text content) = .ok s ↔
      Typed (.obj members) ∧ Layered noVariables (.obj members) s := by
  simp only [groupNames, List.forall_mem_cons, List.not_mem_nil, false_imp_iff, implies_true,
    and_true] at grouped
  obtain ⟨server, cluster, logging⟩ := grouped
  have complete : ∀ a ∈ aspects, (laid (groupMembers (some ({} : Settings).toJson)) members).lookup a.name
      = some (.obj (laidGroup (.obj members) a.name)) := by
    simp only [aspects, List.forall_mem_cons]
    exact ⟨lookup_laid_group rfl server, lookup_laid_group rfl cluster, lookup_laid_group rfl logging,
      List.forall_mem_nil _⟩
  rw [ofFile_eq read, mapError_eq_ok, faithful.take_iff (distinct_laid ..) complete]
  have server := ServerSettings.faithful.group_iff ServerSettings.stands server s.server
  have cluster := ClusterSettings.faithful.group_iff ClusterSettings.stands cluster s.cluster
  have logging := LoggingSettings.faithful.group_iff LoggingSettings.stands logging s.logging
  simp only [← Field.layered_noVariables] at server cluster logging
  simp only [aspects, List.forall_mem_cons, groupAspect]
  constructor
  · rintro ⟨⟨-, readServer⟩, ⟨-, readCluster⟩, ⟨-, readLogging⟩, -⟩
    obtain ⟨typedServer, asServer⟩ := server.mp readServer
    obtain ⟨typedCluster, asCluster⟩ := cluster.mp readCluster
    obtain ⟨typedLogging, asLogging⟩ := logging.mp readLogging
    exact ⟨⟨typedServer, typedCluster, typedLogging⟩, ⟨asServer, asCluster, asLogging⟩⟩
  · rintro ⟨typed, layered⟩
    have readServer := server.mpr ⟨typed.server, layered.server⟩
    have readCluster := cluster.mpr ⟨typed.cluster, layered.cluster⟩
    have readLogging := logging.mpr ⟨typed.logging, layered.logging⟩
    exact ⟨⟨⟨_, readServer⟩, readServer⟩, ⟨⟨_, readCluster⟩, readCluster⟩,
      ⟨⟨_, readLogging⟩, readLogging⟩, List.forall_mem_nil _⟩

/-- **Whatever a file gives of the right kinds, there are settings of it.** -/
theorem exists_layered (grouped : ∀ g ∈ groupNames, IsGroup ((Json.obj members).member? g))
    (typed : Typed (.obj members)) : ∃ s, Layered noVariables (.obj members) s := by
  simp only [groupNames, List.forall_mem_cons, List.not_mem_nil, false_imp_iff, implies_true,
    and_true] at grouped
  obtain ⟨server, cluster, logging⟩ := grouped
  obtain ⟨s, asServer⟩ :=
    ServerSettings.faithful.exists_group ServerSettings.stands server typed.server
  obtain ⟨c, asCluster⟩ :=
    ClusterSettings.faithful.exists_group ClusterSettings.stands cluster typed.cluster
  obtain ⟨l, asLogging⟩ :=
    LoggingSettings.faithful.exists_group LoggingSettings.stands logging typed.logging
  simp only [← Field.layered_noVariables] at asServer asCluster asLogging
  exact ⟨⟨s, c, l⟩, asServer, asCluster, asLogging⟩

end Settings

/-! ## The environment -/

/-- What a variable holds, written as a document, over what was there. -/
theorem written_readVariable {β : Type} {write : β → Json} {read : String → Option β}
    {holds : String → Option Json} (same : ∀ text, (read text).map write = holds text)
    (env : Environment) (name complaint : String) (below : β) :
    write ((readVariable env name complaint read).1.getD below)
      = ((env name).bind holds).getD (write below) := by
  rw [readVariable]
  cases env name with
  | none => rfl
  | some text =>
    rw [Option.bind_some, ← same]
    cases value : read text <;> simp only [value] <;> rfl

theorem written_readTextVariable (env : Environment) (name below : String) :
    Json.str ((readTextVariable env name).getD below) = ((env name).bind heldText).getD (.str below) := by
  rw [readTextVariable]
  cases env name with
  | none => rfl
  | some text =>
    rw [Option.bind_some, heldText, Option.filter_some]
    by_cases empty : text = ""
    · subst empty
      rfl
    · rw [if_neg empty, if_pos]
      · rfl
      · simpa using empty

/-- **What is in an environment stands over a group.** -/
def Overridden (env : Environment) (fields : List (Field α)) (below above : α) : Prop :=
  ∀ f ∈ fields, f.value above = (f.held env).getD (f.value below)

theorem Overridden.layered {env : Environment} {fields : List (Field α)} {below above defaults : α}
    {document : Json} {group : String} (overridden : Overridden env fields below above)
    (layered : ∀ f ∈ fields, f.value below = f.layered noVariables document group defaults) :
    ∀ f ∈ fields, f.value above = f.layered env document group defaults := by
  intro f hf
  rw [overridden f hf, layered f hf, Field.layered_noVariables, Field.layered]
  cases f.held env <;> rfl

namespace Settings

variable {content : String} {members : List (String × Json)} {env : Environment} {document : Json}
  {s s' : Settings}

theorem override_server (env : Environment) (s : Settings) :
    Overridden env ServerSettings.fields s.server (s.override env).1.server := by
  simp only [Overridden, ServerSettings.fields, List.forall_mem_cons]
  exact ⟨written_readTextVariable .., written_readVariable (heldNumber_eq (by decide)) ..,
    rfl, rfl, rfl, rfl, List.forall_mem_nil _⟩

theorem override_cluster (env : Environment) (s : Settings) :
    Overridden env ClusterSettings.fields s.cluster (s.override env).1.cluster := by
  simp only [Overridden, ClusterSettings.fields, List.forall_mem_cons]
  exact ⟨written_readVariable heldFlag_eq .., written_readVariable (heldNumber_eq (by decide)) ..,
    written_readVariable (heldNumber_eq (by decide)) .., written_readTextVariable ..,
    written_readTextVariable .., rfl, List.forall_mem_nil _⟩

theorem override_logging (env : Environment) (s : Settings) :
    Overridden env LoggingSettings.fields s.logging (s.override env).1.logging := by
  simp only [Overridden, LoggingSettings.fields, List.forall_mem_cons]
  exact ⟨written_readTextVariable .., rfl, List.forall_mem_nil _⟩

theorem Layered.override (layered : Layered noVariables document s) (env : Environment) :
    Layered env document (s.override env).1 where
  server := (override_server env s).layered layered.server
  cluster := (override_cluster env s).layered layered.cluster
  logging := (override_logging env s).layered layered.logging

/-- The values of all fields leave no choice. -/
theorem Layered.unique (layered : Layered env document s) (layered' : Layered env document s') :
    s = s' := by
  have server : s.server = s'.server := ServerSettings.faithful.known _ _ (List.forall_mem_map.mpr
    fun f hf => ⟨_, layered.server f hf, layered'.server f hf⟩)
  have cluster : s.cluster = s'.cluster := ClusterSettings.faithful.known _ _ (List.forall_mem_map.mpr
    fun f hf => ⟨_, layered.cluster f hf, layered'.cluster f hf⟩)
  have logging : s.logging = s'.logging := LoggingSettings.faithful.known _ _ (List.forall_mem_map.mpr
    fun f hf => ⟨_, layered.logging f hf, layered'.logging f hf⟩)
  cases s
  cases s'
  rw [Settings.mk.injEq]
  exact ⟨server, cluster, logging⟩

/-! ## Loading -/

theorem load_eq_ok (file : SettingsFile) (env : Environment) (s : Settings) :
    (load file env).1 = .ok s ↔
      ∃ below, ofFile file = .ok below ∧ s = (below.override env).1 ∧ s.refusal? = none := by
  rw [load]
  cases ofFile file with
  | error f => simp
  | ok below =>
    cases refused : (below.override env).1.refusal? with
    | some fault => simp +contextual [refused]
    | none =>
      simp only [refused, Except.ok.injEq, exists_eq_left']
      constructor
      · rintro rfl
        exact ⟨rfl, refused⟩
      · exact fun h => h.1.symm

/-- **Settings come in three layers.** Where the file holds an object, and every group of it is an
object, null or missing, settings are loaded exactly if all that the file gives for fields is of the
fields' kinds and the layered settings are not refused; and then it is the layered settings that are
loaded, of which there are no two. -/
theorem load_layers (read : Json.read content = .ok (.obj members))
    (grouped : ∀ g ∈ groupNames, IsGroup ((Json.obj members).member? g)) (env : Environment) :
    (Typed (.obj members) → ∃! s, Layered env (.obj members) s) ∧
      ∀ s, (load (.text content) env).1 = .ok s ↔
        Typed (.obj members) ∧ Layered env (.obj members) s ∧ s.refusal? = none := by
  refine ⟨fun typed => ?_, fun s => ?_⟩
  · obtain ⟨below, layered⟩ := exists_layered grouped typed
    exact ⟨_, layered.override env, fun s other => other.unique (layered.override env)⟩
  · rw [load_eq_ok]
    constructor
    · rintro ⟨below, taken, rfl, fit⟩
      obtain ⟨typed, layered⟩ := (ofFile_iff read grouped below).mp taken
      exact ⟨typed, layered.override env, fit⟩
    · rintro ⟨typed, layered, fit⟩
      obtain ⟨below, bare⟩ := exists_layered grouped typed
      exact ⟨below, (ofFile_iff read grouped below).mpr ⟨typed, bare⟩,
        layered.unique (bare.override env), fit⟩

/-- A file that says the port twice, knows a name that nobody else does, and has two nulls. -/
def muddledFile : String :=
  "\x7b\"server\":\x7b\"port\":1,\"x\":[],\"port\":9,\"host\":null\x7d,\"cluster\":null\x7d"

def muddledMembers : List (String × Json) :=
  [("server", .obj [("port", .nat 1), ("x", .arr []), ("port", .nat 9), ("host", .null)]),
   ("cluster", .null)]

set_option maxRecDepth 20000 in
theorem read_muddledFile : Json.read muddledFile = .ok (.obj muddledMembers) := by cbv

/-- A host that is empty, a port that is none, and a truth value. -/
def muddledVariables : Environment := fun name =>
  [("SWITCHBOARD_HOST", ""), ("SWITCHBOARD_PORT", "70000"), ("SWITCHBOARD_CLUSTER_ENABLED", "Yes")].lookup
    name

def muddledSettings : Settings where
  server := { port := 9 }
  cluster := { enabled := true }

theorem typed_muddled : Typed (.obj muddledMembers) where
  server := by
    have port : given (.obj muddledMembers) "server" "port" = some (.nat 9) := rfl
    simp only [ServerSettings.fields, List.forall_mem_cons, port]
    refine ⟨?_, fun v nine => ⟨9, by decide, (Option.some.inj nine).symm⟩, ?_, ?_, ?_, ?_, List.forall_mem_nil _⟩ <;>
      simp [given, Json.member?, memberOf?, muddledMembers]
  cluster := by
    simp [ClusterSettings.fields, given, Json.member?, memberOf?, muddledMembers]
  logging := by
    simp [LoggingSettings.fields, given, Json.member?, memberOf?, muddledMembers]

theorem layered_muddled : Layered muddledVariables (.obj muddledMembers) muddledSettings where
  server := by
    simp only [ServerSettings.fields, List.forall_mem_cons]
    exact ⟨rfl, rfl, rfl, rfl, rfl, rfl, List.forall_mem_nil _⟩
  cluster := by
    simp only [ClusterSettings.fields, List.forall_mem_cons]
    exact ⟨by cbv, rfl, rfl, rfl, rfl, rfl, List.forall_mem_nil _⟩
  logging := by
    simp only [LoggingSettings.fields, List.forall_mem_cons]
    exact ⟨rfl, rfl, List.forall_mem_nil _⟩

theorem muddled_layers : (load (.text muddledFile) muddledVariables).1 = .ok muddledSettings :=
  have grouped : ∀ g ∈ groupNames, IsGroup ((Json.obj muddledMembers).member? g) := by
    simp [groupNames, Json.member?, memberOf?, muddledMembers, IsGroup]
  ((load_layers read_muddledFile grouped muddledVariables).2 muddledSettings).mpr
    ⟨typed_muddled, layered_muddled, by decide⟩

end Settings

end SessionHub
