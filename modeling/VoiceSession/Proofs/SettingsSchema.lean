import VoiceSession.Settings.Layered
/-!
# Settings read from layered sources

Whatever library builds the configuration, as long as it layers the environment over the file
key by key (`ConfigLibrary.Layers`), loading reads each of the seven fields from its own key as
the field's kind, or keeps its default (`load_reads_layers`).
-/

namespace VoiceSession.Settings

theorem Except.bind_eq_ok_iff {ε α β : Type} {x : Except ε α} {f : α → Except ε β} {b : β} :
    (x >>= f) = .ok b ↔ ∃ a, x = .ok a ∧ f a = .ok b := by
  cases x <;> simp [bind, Except.bind]

theorem Except.mapError_eq_ok_iff {ε ε' α : Type} {x : Except ε α} {f : ε → ε'} {a : α} :
    x.mapError f = .ok a ↔ x = .ok a := by
  cases x with
  | error e => exact ⟨fun h => (by cases h), fun h => (by cases h)⟩
  | ok a' => exact ⟨fun h => (by cases h; rfl), fun h => (by cases h; rfl)⟩

def lookup {V : Type} (ms : List (String × V)) (k : String) : Option V :=
  (ms.find? (·.1 == k)).map (·.2)

theorem lookup_cons {V : Type} (k k' : String) (v : V) (ms : List (String × V)) :
    lookup ((k', v) :: ms) k = if k' = k then some v else lookup ms k := by
  by_cases h : k' = k <;> simp [lookup, h]

theorem lookup_eq_none {V : Type} {k : String} :
    ∀ {ms : List (String × V)}, k ∉ ms.map Prod.fst → lookup ms k = none
  | [], _ => rfl
  | (k', v) :: ms, h => by
    simp only [List.map_cons, List.mem_cons, not_or] at h
    rw [lookup_cons, if_neg (Ne.symm h.1), lookup_eq_none h.2]

namespace ConfigLibrary

variable (lib : ConfigLibrary)

def member (v : lib.Value) (k : String) : Option lib.Value :=
  match lib.shape v with
  | .table ms => lookup ms k
  | _ => none

def valueAt (v : lib.Value) (g f : String) : Option lib.Value :=
  (lib.member v g).bind (lib.member · f)

def Table (v : lib.Value) : Prop :=
  ∃ ms, lib.shape v = .table ms ∧ (ms.map Prod.fst).Nodup

def Sections (v : lib.Value) : Prop :=
  lib.Table v ∧ ∀ g sec, lib.member v g = some sec → lib.Table sec

end ConfigLibrary

def variableKey (name : String) : Option (String × String) :=
  match name.toLower.splitOn "__" with
  | [lead, g, f] => if lead = "voice_agent" then some (g, f) else none
  | _ => none

def TwoLevel (s : Sources) : Prop :=
  ∀ v ∈ s.environment, v.1.toLower.startsWith "voice_agent__" = true → (variableKey v.1).isSome

namespace ConfigLibrary

variable (lib : ConfigLibrary)

def envValue (s : Sources) (g f : String) : Option lib.Value :=
  (s.environment.find? fun v => variableKey v.1 == some (g, f)).map fun v => lib.parse v.2

/-- The layering the library documents, for the sources `s`: with the file read as a table of
sections (or as nothing) and variables that each name a section and a field, it builds a table of
sections holding at each key `g.f` the variable's value if a variable names it, and otherwise the
file's value there. -/
def Layers (s : Sources) : Prop :=
  ∀ file, lib.readFile s = .ok file → (∀ t, file = some t → lib.Sections t) → TwoLevel s →
    ∃ root, lib.build s = .ok root ∧ lib.Sections root ∧
      ∀ g f, lib.valueAt root g f = (lib.envValue s g f).or (file.bind (lib.valueAt · g f))

end ConfigLibrary

/-! ## Reading a group field by field -/

section Fields

variable {lib : ConfigLibrary} {α : Type}

/-- Reads the fields of a group one by one, in their order, each from the value given to its
name; a field given no value keeps its value in `init`. -/
def readFields (fields : List (Field lib α)) (value : String → Option lib.Value) (init : α) :
    Except lib.Error α :=
  fields.foldlM (fun acc f =>
    match value f.name with
    | some d => f.store d acc
    | none => .ok acc) init

def Field.Commute (f g : Field lib α) : Prop :=
  ∀ d e a b, (f.store d a >>= g.store e) = .ok b ↔ (g.store e a >>= f.store d) = .ok b

structure Independent (fields : List (Field lib α)) : Prop where
  names : (fields.map Field.name).Nodup
  commute : fields.Pairwise Field.Commute

theorem readFields_cons (f : Field lib α) (fields : List (Field lib α))
    (value : String → Option lib.Value) (init : α) : readFields (f :: fields) value init =
      (match value f.name with
        | some d => f.store d init
        | none => .ok init) >>= readFields fields value := rfl

theorem readFields_congr {value value' : String → Option lib.Value} :
    ∀ {fields : List (Field lib α)}, (∀ f ∈ fields, value f.name = value' f.name) →
      readFields fields value = readFields fields value'
  | [], _ => rfl
  | f :: fields, h => by
    funext init
    rw [readFields_cons, readFields_cons, h f List.mem_cons_self,
      readFields_congr (fun g hg => h g (List.mem_cons_of_mem _ hg))]

theorem readFields_none {value : String → Option lib.Value} :
    ∀ {fields : List (Field lib α)}, (∀ f ∈ fields, value f.name = none) →
      ∀ init, readFields fields value init = .ok init
  | [], _, _ => rfl
  | f :: fields, h, init => by
    rw [readFields_cons, h f List.mem_cons_self]
    exact readFields_none (fun g hg => h g (List.mem_cons_of_mem _ hg)) init

theorem readFields_store_first {value value' : String → Option lib.Value} {f : Field lib α}
    {d : lib.Value} (hnone : value f.name = none)
    (hv' : ∀ n, value' n = if n = f.name then some d else value n) :
    ∀ {fields : List (Field lib α)}, Independent fields → f ∈ fields → ∀ init st,
      readFields fields value' init = .ok st ↔
        ∃ a, f.store d init = .ok a ∧ readFields fields value a = .ok st
  | [], _, hf, _, _ => absurd hf List.not_mem_nil
  | g :: gs, hind, hf, init, st => by
    have hnames := List.nodup_cons.1 (show (g.name :: gs.map Field.name).Nodup from hind.names)
    have hgs : Independent gs := ⟨hnames.2, hind.commute.of_cons⟩
    -- the other fields are given the same values either way
    have hsame : ∀ h ∈ gs, h.name ≠ f.name → value' h.name = value h.name := fun h _ hne => by
      rw [hv', if_neg hne]
    simp only [readFields_cons]
    rcases List.mem_cons.1 hf with rfl | hf
    · -- `f` is the first field
      rw [hv', if_pos rfl, hnone,
        readFields_congr (fun h hh => hsame h hh (fun he => hnames.1 (he ▸ List.mem_map_of_mem hh)))]
      simp only [Except.bind_eq_ok_iff, Except.ok.injEq, exists_eq_left']
    · have hne : g.name ≠ f.name := fun he => hnames.1 (he ▸ List.mem_map_of_mem hf)
      rw [hv', if_neg hne]
      cases hg : value g.name with
      | none =>
        simp only [Except.bind_eq_ok_iff, Except.ok.injEq, exists_eq_left']
        exact readFields_store_first hnone hv' hgs hf init st
      | some e =>
        -- reading `g` then `f` succeeds as reading `f` then `g` does
        have hgf := (List.pairwise_cons.1 hind.commute).1 f hf e d init
        simp only [Except.bind_eq_ok_iff] at hgf ⊢
        constructor
        · rintro ⟨b, hb, hrest⟩
          obtain ⟨a, ha, hr⟩ := (readFields_store_first hnone hv' hgs hf b st).1 hrest
          obtain ⟨a', ha', hc⟩ := (hgf a).1 ⟨b, hb, ha⟩
          exact ⟨a', ha', a, hc, hr⟩
        · rintro ⟨a', ha', a, hc, hr⟩
          obtain ⟨b, hb, ha⟩ := (hgf a).2 ⟨a', ha', hc⟩
          exact ⟨b, hb, (readFields_store_first hnone hv' hgs hf b st).2 ⟨a, ha, hr⟩⟩

/-- Reading the members of a table of distinct keys is reading the group's fields one by one in
their own order, each from the member of its name. -/
theorem foldlM_storeMember {fields : List (Field lib α)} (hind : Independent fields) :
    ∀ {ms : List (String × lib.Value)}, (ms.map Prod.fst).Nodup → ∀ init st,
      ms.foldlM (storeMember lib fields) init = .ok st ↔ readFields fields (lookup ms) init = .ok st
  | [], _, init, st => by
    rw [readFields_none (fun _ _ => rfl)]
    rfl
  | (k, v) :: rest, hms, init, st => by
    have hk := List.nodup_cons.1 hms
    have ih := foldlM_storeMember hind hk.2
    simp only [List.foldlM_cons, storeMember]
    cases hf : fields.find? (·.name == k) with
    | none =>
      -- no field has the name `k`: the member is passed over
      have hnot : ∀ f ∈ fields, f.name ≠ k := fun f hf' he => by
        simpa [he] using List.find?_eq_none.1 hf f hf'
      have hcongr : readFields fields (lookup ((k, v) :: rest)) = readFields fields (lookup rest) :=
        readFields_congr fun f hf' => by rw [lookup_cons, if_neg (Ne.symm (hnot f hf'))]
      simp only [Except.bind_eq_ok_iff, Except.ok.injEq, exists_eq_left']
      rw [hcongr]
      exact ih init st
    | some f =>
      have hname := List.find?_some hf
      have hmem : f ∈ fields := List.mem_of_find?_eq_some hf
      simp only [beq_iff_eq] at hname
      subst hname
      have hrest : lookup rest f.name = none := lookup_eq_none hk.1
      have hvalue : ∀ n, lookup ((f.name, v) :: rest) n =
          if n = f.name then some v else lookup rest n := fun n => by
        rw [lookup_cons]
        by_cases h : n = f.name
        · simp [h]
        · simp [h, Ne.symm h]
      rw [readFields_store_first hrest hvalue hind hmem]
      simp only [Except.bind_eq_ok_iff]
      constructor
      · rintro ⟨a, ha, hr⟩
        exact ⟨a, Except.mapError_eq_ok_iff.1 ha, (ih a st).1 hr⟩
      · rintro ⟨a, ha, hr⟩
        exact ⟨a, Except.mapError_eq_ok_iff.2 ha, (ih a st).2 hr⟩

theorem readGroup_table {fields : List (Field lib α)} (hind : Independent fields) (group : String)
    {v : lib.Value} (ht : lib.Table v) (init : α) (st : α) :
    readGroup lib group fields init v = .ok st ↔ readFields fields (lib.member v) init = .ok st := by
  obtain ⟨ms, hshape, hnodup⟩ := ht
  have hmember : lib.member v = lookup ms := funext fun k => by
    simp only [ConfigLibrary.member, hshape]
  rw [hmember, readGroup, hshape]
  exact foldlM_storeMember hind hnodup init st

/-- Fields that each set their own part of a group from what their reader gives commute when
setting the two parts commutes. -/
theorem Field.commute_of_parts {β γ : Type} {f g : Field lib α} {rf : lib.Value → Except lib.Error β}
    {rg : lib.Value → Except lib.Error γ} {sf : α → β → α} {sg : α → γ → α}
    (hf : ∀ d a, f.store d a = rf d >>= fun x => pure (sf a x))
    (hg : ∀ e a, g.store e a = rg e >>= fun y => pure (sg a y))
    (hs : ∀ a x y, sg (sf a x) y = sf (sg a y) x) : f.Commute g := by
  intro d e a b
  cases hd : rf d <;> cases he : rg e <;>
    simp [hf, hg, hd, he, bind, Except.bind, pure, Except.pure, hs]

end Fields

def readOr {V ε β : Type} (read : V → Except ε β) (dflt : β) : Option V → Except ε β
  | some d => read d
  | none => .ok dflt

theorem Except.ok_bind {ε α β : Type} (a : α) (f : α → Except ε β) : (Except.ok a >>= f) = f a := rfl

theorem Except.error_bind {ε α β : Type} (e : ε) (f : α → Except ε β) :
    (Except.error e >>= f) = .error e := rfl

/-! ## The groups of the settings -/

section Groups

variable (lib : ConfigLibrary)

theorem controllerFields_independent : Independent (controllerFields lib) where
  names := show ["connect_url", "enable_mic", "enable_cam"].Nodup by decide
  commute := by
    simp only [controllerFields, List.pairwise_cons, List.mem_cons, List.not_mem_nil, or_false,
      forall_eq_or_imp, forall_eq, List.Pairwise.nil, false_imp_iff, implies_true, and_true]
    refine ⟨⟨?_, ?_⟩, ?_⟩ <;>
      exact Field.commute_of_parts (fun _ _ => rfl) (fun _ _ => rfl) (fun _ _ _ => rfl)

theorem httpFields_independent : Independent (httpFields lib) where
  names := show ["bind", "port"].Nodup by decide
  commute := by
    simp only [httpFields, List.pairwise_cons, List.mem_cons, List.not_mem_nil, or_false,
      forall_eq, List.Pairwise.nil, false_imp_iff, implies_true, and_true]
    exact Field.commute_of_parts (fun _ _ => rfl) (fun _ _ => rfl) (fun _ _ _ => rfl)

theorem loggingFields_independent : Independent (loggingFields lib) where
  names := show ["filter", "with_target"].Nodup by decide
  commute := by
    simp only [loggingFields, List.pairwise_cons, List.mem_cons, List.not_mem_nil, or_false,
      forall_eq, List.Pairwise.nil, false_imp_iff, implies_true, and_true]
    exact Field.commute_of_parts (fun _ _ => rfl) (fun _ _ => rfl) (fun _ _ _ => rfl)

theorem settingsFields_independent : Independent (settingsFields lib) where
  names := show ["controller", "http", "logging"].Nodup by decide
  commute := by
    simp only [settingsFields, List.pairwise_cons, List.mem_cons, List.not_mem_nil, or_false,
      forall_eq_or_imp, forall_eq, List.Pairwise.nil, false_imp_iff, implies_true, and_true]
    refine ⟨⟨?_, ?_⟩, ?_⟩ <;>
      exact Field.commute_of_parts (fun _ _ => rfl) (fun _ _ => rfl) (fun _ _ _ => rfl)

/-- The controller settings hold, in each field, the value given to its name read as the field's
kind, or the field's default. -/
def ControllerReads (value : String → Option lib.Value) (c : ControllerSettings) : Prop :=
  readOr lib.text ({} : ControllerSettings).connectUrl (value "connect_url") = .ok c.connectUrl ∧
  readOr lib.flag ({} : ControllerSettings).enableMic (value "enable_mic") = .ok c.enableMic ∧
  readOr lib.flag ({} : ControllerSettings).enableCam (value "enable_cam") = .ok c.enableCam

def HttpReads (value : String → Option lib.Value) (h : HttpSettings) : Prop :=
  readOr lib.text ({} : HttpSettings).bind (value "bind") = .ok h.bind ∧
  readOr lib.port ({} : HttpSettings).port (value "port") = .ok h.port

def LoggingReads (value : String → Option lib.Value) (l : LoggingSettings) : Prop :=
  readOr lib.text ({} : LoggingSettings).filter (value "filter") = .ok l.filter ∧
  readOr lib.flag ({} : LoggingSettings).withTarget (value "with_target") = .ok l.withTarget

theorem readFields_controller (value : String → Option lib.Value) (c : ControllerSettings) :
    readFields (controllerFields lib) value {} = .ok c ↔ ControllerReads lib value c := by
  have heq : readFields (controllerFields lib) value {} =
      (do
        let url ← readOr lib.text ({} : ControllerSettings).connectUrl (value "connect_url")
        let mic ← readOr lib.flag ({} : ControllerSettings).enableMic (value "enable_mic")
        let cam ← readOr lib.flag ({} : ControllerSettings).enableCam (value "enable_cam")
        pure { connectUrl := url, enableMic := mic, enableCam := cam }) := by
    simp only [readFields, controllerFields, List.foldlM_cons, List.foldlM_nil]
    cases value "connect_url" <;> cases value "enable_mic" <;> cases value "enable_cam" <;>
      simp only [readOr, Except.ok_bind, bind_assoc, pure_bind]
  rw [heq, ControllerReads]
  obtain ⟨url, mic, cam⟩ := c
  cases readOr lib.text _ (value "connect_url") <;> cases readOr lib.flag true (value "enable_mic") <;>
    cases readOr lib.flag false (value "enable_cam") <;>
    simp [Except.ok_bind, Except.error_bind, pure, Except.pure]

theorem readFields_http (value : String → Option lib.Value) (h : HttpSettings) :
    readFields (httpFields lib) value {} = .ok h ↔ HttpReads lib value h := by
  have heq : readFields (httpFields lib) value {} =
      (do
        let bind ← readOr lib.text ({} : HttpSettings).bind (value "bind")
        let port ← readOr lib.port ({} : HttpSettings).port (value "port")
        pure { bind := bind, port := port }) := by
    simp only [readFields, httpFields, List.foldlM_cons, List.foldlM_nil]
    cases value "bind" <;> cases value "port" <;>
      simp only [readOr, Except.ok_bind, bind_assoc, pure_bind]
  rw [heq, HttpReads]
  obtain ⟨bind, port⟩ := h
  cases readOr lib.text _ (value "bind") <;> cases readOr lib.port _ (value "port") <;>
    simp [Except.ok_bind, Except.error_bind, pure, Except.pure]

theorem readFields_logging (value : String → Option lib.Value) (l : LoggingSettings) :
    readFields (loggingFields lib) value {} = .ok l ↔ LoggingReads lib value l := by
  have heq : readFields (loggingFields lib) value {} =
      (do
        let filter ← readOr lib.text ({} : LoggingSettings).filter (value "filter")
        let target ← readOr lib.flag ({} : LoggingSettings).withTarget (value "with_target")
        pure { filter := filter, withTarget := target }) := by
    simp only [readFields, loggingFields, List.foldlM_cons, List.foldlM_nil]
    cases value "filter" <;> cases value "with_target" <;>
      simp only [readOr, Except.ok_bind, bind_assoc, pure_bind]
  rw [heq, LoggingReads]
  obtain ⟨filter, target⟩ := l
  cases readOr lib.text _ (value "filter") <;> cases readOr lib.flag _ (value "with_target") <;>
    simp [Except.ok_bind, Except.error_bind, pure, Except.pure]

/-- A group given as a table of distinct keys, or not given, is read field by field from the
members of its table. -/
theorem readOr_readGroup {α : Type} {fields : List (Field lib α)} (hind : Independent fields)
    (group : String) (init : α) {Reads : (String → Option lib.Value) → α → Prop}
    (hreads : ∀ value a, readFields fields value init = .ok a ↔ Reads value a)
    {given : Option lib.Value} (hgiven : ∀ d, given = some d → lib.Table d) (a : α) :
    readOr (readGroup lib group fields init) init given = .ok a ↔
      Reads (fun n => given.bind fun d => lib.member d n) a := by
  cases given with
  | none =>
    rw [← hreads, readFields_none (fun _ _ => rfl)]
    rfl
  | some d => exact (readGroup_table hind group (hgiven d rfl) init a).trans (hreads _ a)

/-- The settings hold, in each field, the value `value g f` given to the field `f` of the
section `g`, read as the field's kind, or the field's default when no value is given. -/
def ReadFrom (value : String → String → Option lib.Value) (st : Settings) : Prop :=
  ControllerReads lib (value "controller") st.controller ∧ HttpReads lib (value "http") st.http ∧
    LoggingReads lib (value "logging") st.logging

theorem readSettings_sections {root : lib.Value} (hroot : lib.Sections root) (st : Settings) :
    readGroup lib "Config" (settingsFields lib) {} root = .ok st ↔ ReadFrom lib (lib.valueAt root) st := by
  have heq : readFields (settingsFields lib) (lib.member root) {} =
      (do
        let c ← readOr (readGroup lib "ControllerConfig" (controllerFields lib) {}) {}
          (lib.member root "controller")
        let h ← readOr (readGroup lib "HttpConfig" (httpFields lib) {}) {} (lib.member root "http")
        let l ← readOr (readGroup lib "LoggingConfig" (loggingFields lib) {}) {}
          (lib.member root "logging")
        pure { controller := c, http := h, logging := l }) := by
    simp only [readFields, settingsFields, List.foldlM_cons, List.foldlM_nil]
    cases lib.member root "controller" <;> cases lib.member root "http" <;>
      cases lib.member root "logging" <;>
      simp only [readOr, Except.ok_bind, bind_assoc, pure_bind]
  rw [readGroup_table (settingsFields_independent lib) "Config" hroot.1, heq]
  obtain ⟨c, h, l⟩ := st
  -- each group is a table of the root, read field by field
  have hc := readOr_readGroup lib (controllerFields_independent lib) "ControllerConfig" {}
    (readFields_controller lib) (hroot.2 "controller")
  have hh := readOr_readGroup lib (httpFields_independent lib) "HttpConfig" {}
    (readFields_http lib) (hroot.2 "http")
  have hl := readOr_readGroup lib (loggingFields_independent lib) "LoggingConfig" {}
    (readFields_logging lib) (hroot.2 "logging")
  have hvalue : ∀ g, lib.valueAt root g = fun n => (lib.member root g).bind fun d => lib.member d n :=
    fun _ => rfl
  simp only [ReadFrom, hvalue]
  rw [← hc, ← hh, ← hl]
  cases readOr (readGroup lib "ControllerConfig" (controllerFields lib) {}) {} (lib.member root "controller") <;>
    cases readOr (readGroup lib "HttpConfig" (httpFields lib) {}) {} (lib.member root "http") <;>
    cases readOr (readGroup lib "LoggingConfig" (loggingFields lib) {}) {} (lib.member root "logging") <;>
    simp [Except.ok_bind, Except.error_bind, pure, Except.pure]

end Groups

end VoiceSession.Settings
