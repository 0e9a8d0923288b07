import MethodSig.DotEnv

/-!
# `Proofs.Assignments` — making the assignments of a file

A file of variables is a list of assignments, and each does one of three things: nothing, if its variable
has a value; it fills the gap; or it breaks off, if its value is none that a variable can have. What it
would fill the gap with is an *entry*, and as far as nothing breaks off, the entries of a file do not depend
on how gaps are filled, since a value is read in what the assignments before it have left (`entries`).
Whether a file breaks off over a variable can be read off its first entry (`Environment.Admits`).

Environments that agree on some variables still do when the assignments have been made, if none of these
variables, where it has no value, is given one that refers to others; and both break off over one of them or
neither does (`loadsAlike_foldlM`). So a file depends on the variables that it sets or refers to
(`loadsAlike_fill_of_mentioned`), and where it confines one variable, all others are independent of that one
(`loadsAlike_fill`).
-/

namespace MethodSig

namespace Environment

variable {env : Environment} {name key value : String} {added : List (String × String)}

/-- An entry unsets no variable. -/
theorem eq_none_of_setIfAbsent (h : env.setIfAbsent key value name = none) : env name = none := by
  by_cases hname : name = key
  · subst hname
    rw [setIfAbsent_self] at h
    exact (Option.or_eq_none_iff.mp h).1
  · rwa [setIfAbsent_of_ne env value hname] at h

/-- An entry for a variable with a value does nothing. -/
theorem setIfAbsent_of_ne_none (h : env name ≠ none) (value : String) :
    env.setIfAbsent name value = env := by
  funext other
  by_cases hother : other = name
  · subst hother
    obtain ⟨v, hv⟩ := Option.ne_none_iff_exists'.mp h
    rw [setIfAbsent_self, hv, Option.some_or]
  · exact setIfAbsent_of_ne env value hother

/-- Added to `env`, the entries give the variable no value that it cannot have: it has one already, or its
    first entry can be stored. -/
def Admits (env : Environment) (added : List (String × String)) (name : String) : Prop :=
  env name = none → ∀ value ∈ added.lookup name, isStorable value = true

instance (env : Environment) (added : List (String × String)) (name : String) :
    Decidable (env.Admits added name) :=
  inferInstanceAs (Decidable (env name = none → ∀ value ∈ added.lookup name, isStorable value = true))

/-- An entry in front asks for a value that can be stored where it fills a gap, and closes that gap. -/
theorem admits_cons_iff : env.Admits ((key, value) :: added) name ↔
    (name = key → env name = none → isStorable value = true) ∧
      (env.setIfAbsent key value).Admits added name := by
  unfold Admits
  by_cases hname : name = key
  · subst hname
    rw [List.lookup_cons_self, setIfAbsent_self]
    simp
  · have hlookup : ((key, value) :: added).lookup name = added.lookup name := by
      rw [List.lookup_cons, beq_eq_false_iff_ne.mpr hname]
    rw [hlookup, setIfAbsent_of_ne env value hname]
    simp [hname]

/-- Entries that can be stored are admitted. -/
theorem admits_of_isStorable (h : ∀ entry ∈ added, isStorable entry.2 = true) (env : Environment)
    (name : String) : env.Admits added name := by
  induction added generalizing env with
  | nil =>
      rintro _ value ⟨⟩
  | cons entry rest ih =>
      obtain ⟨hentry, hrest⟩ := List.forall_mem_cons.mp h
      exact admits_cons_iff.mpr ⟨fun _ _ => hentry, ih hrest _⟩

theorem lookup_eq_none_of_notMem (h : name ∉ added.map Prod.fst) : added.lookup name = none := by
  apply List.lookup_eq_none_iff.mpr
  intro entry hentry
  have hne : name ≠ entry.1 := fun hname => h (hname ▸ List.mem_map_of_mem hentry)
  simpa using hne

/-- A variable without an entry is admitted. -/
theorem admits_of_notMem (env : Environment) (h : name ∉ added.map Prod.fst) : env.Admits added name := by
  intro _ value hvalue
  rw [lookup_eq_none_of_notMem h] at hvalue
  cases hvalue

/-- The environments give the variables in `p` the same value, or none. -/
def AgreeOn (p : String → Prop) (env₁ env₂ : Environment) : Prop :=
  ∀ name, p name → env₁ name = env₂ name

/-- The environments give every variable but `name` the same value, or none. -/
def AgreeBut (name : String) (env₁ env₂ : Environment) : Prop := env₁.AgreeOn (· ≠ name) env₂

/-- A variable that is set at the front of a list of variables. -/
theorem agreeBut_ofList_cons (name value : String) (entries : List (String × String)) :
    (ofList entries).AgreeBut name (ofList ((name, value) :: entries)) := by
  intro other hother
  have hne : (other == name) = false := beq_eq_false_iff_ne.mpr hother
  rw [ofList, ofList, List.lookup_cons, hne]

/-- The same entry keeps environments in agreement, and so do two entries for a variable that does not
    count. -/
theorem AgreeOn.setIfAbsent {p : String → Prop} {env₁ env₂ : Environment} (h : env₁.AgreeOn p env₂)
    {value₁ value₂ : String} (hvalue : p key → value₁ = value₂) :
    (env₁.setIfAbsent key value₁).AgreeOn p (env₂.setIfAbsent key value₂) := by
  intro other hother
  by_cases hkey : other = key
  · subst hkey
    rw [setIfAbsent_self, setIfAbsent_self, h other hother, hvalue hother]
  · rw [setIfAbsent_of_ne env₁ value₁ hkey, setIfAbsent_of_ne env₂ value₂ hkey, h other hother]

end Environment

namespace DotEnv

variable {env env₁ env₂ : Environment} {name : String} {a : Assignment} {made : List Assignment}

/-! ## Values -/

@[simp] theorem expand_char (env : Environment) (c : Char) (pieces : List Piece) :
    expand env (.char c :: pieces) = c :: expand env pieces := rfl

@[simp] theorem expand_reference (env : Environment) (name : List Char) (pieces : List Piece) :
    expand env (.reference name :: pieces) = (env.behind? name).getD [] ++ expand env pieces := rfl

/-- An entry is part of the value of the variable before the equals sign. -/
theorem behind?_congr {start : List Char}
    (h : env₁ (String.ofList (start.takeWhile (· ≠ '='))) =
      env₂ (String.ofList (start.takeWhile (· ≠ '=')))) :
    env₁.behind? start = env₂.behind? start := by
  simp only [Environment.behind?, h]

/-- **What is read depends on the variables that are referred to.** -/
theorem expand_congr {pieces : List Piece}
    (h : ∀ v ∈ pieces.filterMap Piece.referent?, env₁ v = env₂ v) :
    expand env₁ pieces = expand env₂ pieces := by
  induction pieces with
  | nil => rfl
  | cons piece pieces ih =>
      cases piece with
      | char c => rw [expand_char, expand_char, ih h]
      | reference name =>
          have hname := h _ List.mem_cons_self
          have hpieces : expand env₁ pieces = expand env₂ pieces :=
            ih fun v hv => h v (List.mem_cons_of_mem _ hv)
          rw [expand_reference, expand_reference, behind?_congr hname, hpieces]

namespace Assignment

theorem valueIn_congr (h : ∀ v ∈ a.references, env₁ v = env₂ v) : a.valueIn env₁ = a.valueIn env₂ :=
  congrArg String.ofList (expand_congr h)

/-! ## One assignment -/

theorem perform_eq_ok (h : env a.key = none → Environment.isStorable (a.valueIn env) = true) :
    a.perform env = .ok (env.setIfAbsent a.key (a.valueIn env)) := by
  unfold perform
  rw [if_neg]
  rintro ⟨hunset, hvalue⟩
  rw [h hunset] at hvalue
  cases hvalue

theorem perform_eq_error (hunset : env a.key = none)
    (hvalue : Environment.isStorable (a.valueIn env) = false) :
    a.perform env = .error ⟨env, a.key, a.valueIn env⟩ := by
  unfold perform
  rw [if_pos ⟨hunset, hvalue⟩]

end Assignment

/-! ## Entries -/

/-- The entries that assignments amount to. The value of each is read in the environment that the
    assignments before it leave. -/
def entriesFrom (env : Environment) : List Assignment → List (String × String)
  | [] => []
  | a :: rest => (a.key, a.valueIn env) :: entriesFrom (env.setIfAbsent a.key (a.valueIn env)) rest

/-- The entries of a file. -/
def entries (env : Environment) (file : String) : List (String × String) :=
  entriesFrom env (assignments file)

theorem Assignment.perform_cases (env : Environment) (a : Assignment) :
    (env a.key = none ∧ Environment.isStorable (a.valueIn env) = false ∧
        a.perform env = .error ⟨env, a.key, a.valueIn env⟩) ∨
      (env a.key = none → Environment.isStorable (a.valueIn env) = true) ∧
        a.perform env = .ok (env.setIfAbsent a.key (a.valueIn env)) := by
  by_cases h : env a.key = none ∧ Environment.isStorable (a.valueIn env) = false
  · exact Or.inl ⟨h.1, h.2, perform_eq_error h.1 h.2⟩
  · have hvalue : env a.key = none → Environment.isStorable (a.valueIn env) = true := fun hunset =>
      Bool.not_eq_false _ ▸ fun hfalse => h ⟨hunset, hfalse⟩
    exact Or.inr ⟨hvalue, perform_eq_ok hvalue⟩

theorem Assignment.eq_setIfAbsent_of_perform {filled : Environment} (h : a.perform env = .ok filled) :
    filled = env.setIfAbsent a.key (a.valueIn env) := by
  rcases a.perform_cases env with ⟨-, -, herror⟩ | ⟨-, hok⟩
  · rw [herror] at h
    cases h
  · rw [hok] at h
    exact (Except.ok.inj h).symm

/-- **Assignments break off** exactly if an entry gives a variable a value that it cannot have. -/
theorem exists_foldlM_eq_error_iff :
    (∃ e, made.foldlM Assignment.perform env = .error e) ↔
      ∃ name, ¬ env.Admits (entriesFrom env made) name := by
  induction made generalizing env with
  | nil =>
      constructor
      · rintro ⟨e, he⟩
        cases he
      · rintro ⟨name, hname⟩
        exact absurd (fun _ _ => by rintro ⟨⟩) hname
  | cons a rest ih =>
      rw [List.foldlM_cons, entriesFrom]
      simp only [Environment.admits_cons_iff]
      rcases a.perform_cases env with ⟨hunset, hvalue, herror⟩ | ⟨hvalue, hok⟩
      · rw [herror]
        refine ⟨fun _ => ⟨a.key, fun h => ?_⟩, fun _ => ⟨_, rfl⟩⟩
        rw [h.1 rfl hunset] at hvalue
        cases hvalue
      · rw [hok]
        refine (@ih (env.setIfAbsent a.key (a.valueIn env))).trans ?_
        have hhead : ∀ name, name = a.key → env name = none →
            Environment.isStorable (a.valueIn env) = true := by
          rintro name rfl
          exact hvalue
        exact exists_congr fun name => not_congr (and_iff_right (hhead name)).symm

theorem exists_fill_eq_error_iff {file : String} :
    (∃ e, fill env file = .error e) ↔ ∃ name, ¬ env.Admits (entries env file) name :=
  exists_foldlM_eq_error_iff

/-! ## Variables that a file depends on -/

/-- Two environments have been filled, or filling them has broken off over the same value. In what is
    filled the environments agree on the variables in `p`. -/
inductive LoadsAlike (p : String → Prop) :
    Except Unstorable Environment → Except Unstorable Environment → Prop
  | ok {env₁ env₂ : Environment} (henv : env₁.AgreeOn p env₂) : LoadsAlike p (.ok env₁) (.ok env₂)
  | error {env₁ env₂ : Environment} (henv : env₁.AgreeOn p env₂) (key value : String) :
      LoadsAlike p (.error ⟨env₁, key, value⟩) (.error ⟨env₂, key, value⟩)

/-- **One assignment** keeps environments in agreement, or breaks off in both over the same value. -/
theorem loadsAlike_perform {p : String → Prop} (henv : env₁.AgreeOn p env₂)
    (ha : p a.key → env₁ a.key = none → ∀ v ∈ a.references, p v)
    (h₁ : ¬ p a.key → env₁ a.key = none → Environment.isStorable (a.valueIn env₁) = true)
    (h₂ : ¬ p a.key → env₂ a.key = none → Environment.isStorable (a.valueIn env₂) = true) :
    LoadsAlike p (a.perform env₁) (a.perform env₂) := by
  by_cases hkey : p a.key
  · have hsame : env₁ a.key = env₂ a.key := henv a.key hkey
    by_cases hunset : env₁ a.key = none
    · -- the gap is the same on both sides, and so is the value
      have hunset₂ : env₂ a.key = none := hsame ▸ hunset
      have hvalue : a.valueIn env₁ = a.valueIn env₂ :=
        Assignment.valueIn_congr fun v hv => henv v (ha hkey hunset v hv)
      cases hstorable : Environment.isStorable (a.valueIn env₁) with
      | false =>
          rw [Assignment.perform_eq_error hunset hstorable,
            Assignment.perform_eq_error hunset₂ (hvalue ▸ hstorable), ← hvalue]
          exact .error henv _ _
      | true =>
          rw [Assignment.perform_eq_ok fun _ => hstorable,
            Assignment.perform_eq_ok fun _ => hvalue ▸ hstorable]
          exact .ok (henv.setIfAbsent fun _ => hvalue)
    · -- there is no gap
      have hset₂ : env₂ a.key ≠ none := hsame ▸ hunset
      rw [Assignment.perform_eq_ok fun h => absurd h hunset,
        Assignment.perform_eq_ok fun h => absurd h hset₂,
        Environment.setIfAbsent_of_ne_none hunset, Environment.setIfAbsent_of_ne_none hset₂]
      exact .ok henv
  · -- each side gives the variable a value of its own
    rw [Assignment.perform_eq_ok (h₁ hkey), Assignment.perform_eq_ok (h₂ hkey)]
    exact .ok (henv.setIfAbsent fun h => absurd h hkey)

/-- **Assignments keep environments in agreement**, or break off in both over the same value. -/
theorem loadsAlike_foldlM {p : String → Prop} (henv : env₁.AgreeOn p env₂)
    (hmade : ∀ a ∈ made, p a.key → env₁ a.key = none → ∀ v ∈ a.references, p v)
    (h₁ : ∀ name, ¬ p name → env₁.Admits (entriesFrom env₁ made) name)
    (h₂ : ∀ name, ¬ p name → env₂.Admits (entriesFrom env₂ made) name) :
    LoadsAlike p (made.foldlM Assignment.perform env₁) (made.foldlM Assignment.perform env₂) := by
  induction made generalizing env₁ env₂ with
  | nil => exact .ok henv
  | cons a rest ih =>
      have hfirst₁ := fun name h => Environment.admits_cons_iff.mp (h₁ name h)
      have hfirst₂ := fun name h => Environment.admits_cons_iff.mp (h₂ name h)
      have hstep := loadsAlike_perform henv (hmade a List.mem_cons_self)
        (fun h => (hfirst₁ a.key h).1 rfl) (fun h => (hfirst₂ a.key h).1 rfl)
      rw [List.foldlM_cons, List.foldlM_cons]
      generalize hload₁ : a.perform env₁ = load₁ at hstep
      generalize hload₂ : a.perform env₂ = load₂ at hstep
      cases hstep with
      | error hagree key value => exact .error hagree key value
      | ok hagree =>
          obtain rfl := Assignment.eq_setIfAbsent_of_perform hload₁
          obtain rfl := Assignment.eq_setIfAbsent_of_perform hload₂
          refine ih hagree ?_ (fun name h => (hfirst₁ name h).2) (fun name h => (hfirst₂ name h).2)
          -- what has no value behind the first assignment had none before it
          intro b hb hkey hunset
          exact hmade b (List.mem_cons_of_mem a hb) hkey (Environment.eq_none_of_setIfAbsent hunset)

/-- The file carries the value of `name` over into no other variable that has no value yet. -/
def Confines (env : Environment) (file name : String) : Prop :=
  ∀ a ∈ assignments file, a.key ≠ name → env a.key = none → name ∉ a.references

instance (env : Environment) (file name : String) : Decidable (Confines env file name) :=
  inferInstanceAs (Decidable (∀ a ∈ assignments file, a.key ≠ name → env a.key = none →
    name ∉ a.references))

/-- **A file keeps environments in agreement** on all variables but one, if it confines that one and gives
    it no value that it cannot have. -/
theorem loadsAlike_fill {file : String} (henv : env₁.AgreeBut name env₂) (hfile : Confines env₁ file name)
    (h₁ : env₁.Admits (entries env₁ file) name) (h₂ : env₂.Admits (entries env₂ file) name) :
    LoadsAlike (· ≠ name) (fill env₁ file) (fill env₂ file) := by
  have honly : ∀ other, ¬ other ≠ name → other = name := fun _ => Decidable.not_not.mp
  refine loadsAlike_foldlM henv ?_ (fun other h => honly other h ▸ h₁) (fun other h => honly other h ▸ h₂)
  intro a ha hkey hunset v hv hname
  exact hfile a ha hkey hunset (hname ▸ hv)

theorem map_fst_entriesFrom (env : Environment) (made : List Assignment) :
    (entriesFrom env made).map Prod.fst = made.map Assignment.key := by
  induction made generalizing env with
  | nil => rfl
  | cons a rest ih => rw [entriesFrom, List.map_cons, List.map_cons, ih]

/-- **A file depends on the variables that it sets or refers to.** -/
theorem loadsAlike_fill_of_mentioned {file : String} {p : String → Prop} (henv : env₁.AgreeOn p env₂)
    (hfile : ∀ name ∈ mentioned file, p name) : LoadsAlike p (fill env₁ file) (fill env₂ file) := by
  have hkey : ∀ a ∈ assignments file, p a.key := fun a ha =>
    hfile a.key (List.mem_flatMap.mpr ⟨a, ha, List.mem_cons_self⟩)
  have hadmits : ∀ (env : Environment) name, ¬ p name →
      env.Admits (entriesFrom env (assignments file)) name := by
    intro env name hname
    apply Environment.admits_of_notMem
    rw [map_fst_entriesFrom]
    intro hmem
    obtain ⟨a, ha, rfl⟩ := List.mem_map.mp hmem
    exact hname (hkey a ha)
  refine loadsAlike_foldlM henv ?_ (hadmits env₁) (hadmits env₂)
  intro a ha _ _ v hv
  exact hfile v (List.mem_flatMap.mpr ⟨a, ha, List.mem_cons_of_mem _ hv⟩)

end DotEnv

end MethodSig
