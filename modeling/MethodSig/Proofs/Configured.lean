import MethodSig.Proofs.LogLevel

/-!
# `Proofs.Configured` — what the settings depend on

Each setting is read from a variable of its own (`Settings.read_eq`). Reading them fails in one situation:
the variable of the output format has a value that is not blank and names no format
(`Settings.read_eq_error_iff`). The look-ups end there, so the third variable is not asked for
(`Settings.trace_readAsking`).

A level or a format can be *respelled*, with other white space around it and letters of the other case,
and still says the same (`Respelled.normalized_eq`). The values that name a format are just the spellings
of its name (`OutputFormat.ofName_eq_ok_iff`), for the settings as for the arguments; the two differ in
blank values alone, which are a missing setting but no format.
-/

namespace MethodSig

/-! ## White space -/

namespace Text

variable {s t front core back : List Char} {v w : String}

/-- The text is empty or white space only. -/
def IsWhite (s : List Char) : Prop := ∀ c ∈ s, isWhiteSpace c = true

instance (s : List Char) : Decidable (IsWhite s) :=
  decidable_of_iff (s.all isWhiteSpace = true) List.all_eq_true

theorem isWhite_append : IsWhite (s ++ t) ↔ IsWhite s ∧ IsWhite t := List.forall_mem_append

theorem IsWhite.reverse (h : IsWhite s) : IsWhite s.reverse := fun c hc => h c (List.mem_reverse.mp hc)

theorem isWhite_takeWhile (s : List Char) : IsWhite (s.takeWhile isWhiteSpace) :=
  fun _ hc => List.mem_takeWhile_imp hc

/-- White space in front does not matter to trimming. -/
theorem trimStart_append (h : IsWhite front) (s : List Char) : trimStart (front ++ s) = trimStart s :=
  List.dropWhile_append_of_pos h

theorem trimStart_eq_nil_iff : trimStart s = [] ↔ IsWhite s := List.dropWhile_eq_nil_iff

/-- White space behind does not matter either. -/
theorem trimEnd_append (h : IsWhite back) (s : List Char) : trimEnd (s ++ back) = trimEnd s := by
  rw [trimEnd, trimEnd, List.reverse_append, List.dropWhile_append_of_pos h.reverse]

/-- **Trimming takes white space off both ends.** -/
theorem trim_append (hfront : IsWhite front) (hback : IsWhite back) (s : List Char) :
    trim (front ++ s ++ back) = trim s := by
  rw [trim, trim, List.append_assoc, trimStart_append hfront]
  by_cases hs : IsWhite s
  · have hall : IsWhite (s ++ back) := isWhite_append.mpr ⟨hs, hback⟩
    rw [trimStart_eq_nil_iff.mpr hs, trimStart_eq_nil_iff.mpr hall]
  · -- the text is not used up, so what is behind it is left
    have hempty : ¬ (s.dropWhile isWhiteSpace).isEmpty = true :=
      fun h => hs (trimStart_eq_nil_iff.mp (List.isEmpty_iff.mp h))
    have hsplit : trimStart (s ++ back) = trimStart s ++ back := by
      rw [trimStart, List.dropWhile_append, if_neg hempty]
      rfl
    rw [hsplit, trimEnd_append hback]

theorem trimStart_eq_self (h : ∀ c ∈ s.head?, isWhiteSpace c = false) : trimStart s = s := by
  cases s with
  | nil => rfl
  | cons c s =>
      have hc : isWhiteSpace c = false := h c rfl
      rw [trimStart, List.dropWhile_cons, hc]
      rfl

theorem trimEnd_eq_self (h : ∀ c ∈ s.getLast?, isWhiteSpace c = false) : trimEnd s = s := by
  have hreverse : trimStart s.reverse = s.reverse := by
    refine trimStart_eq_self ?_
    rwa [List.head?_reverse]
  rw [trimEnd]
  exact (congrArg List.reverse hreverse).trans (List.reverse_reverse s)

/-- A text that begins and ends with something visible is all that trimming leaves. -/
theorem trimStart_trimEnd_append (hfront : IsWhite front) (hback : IsWhite back) (hne : s ≠ [])
    (hfirst : ∀ c ∈ s.head?, isWhiteSpace c = false)
    (hlast : ∀ c ∈ s.getLast?, isWhiteSpace c = false) :
    trimStart (trimEnd (front ++ s ++ back)) = s := by
  have hend : trimEnd (front ++ s) = front ++ s := by
    refine trimEnd_eq_self ?_
    rwa [List.getLast?_append_of_ne_nil front hne]
  rw [trimEnd_append hback, hend, trimStart_append hfront, trimStart_eq_self hfirst]

/-- A text is its trimmed form with white space around it. -/
theorem exists_eq_append_trim (s : List Char) :
    ∃ front back, IsWhite front ∧ IsWhite back ∧ s = front ++ trim s ++ back := by
  refine ⟨s.takeWhile isWhiteSpace, ((trimStart s).reverse.takeWhile isWhiteSpace).reverse,
    isWhite_takeWhile s, (isWhite_takeWhile _).reverse, ?_⟩
  have hend : trimStart s = trim s ++ ((trimStart s).reverse.takeWhile isWhiteSpace).reverse := by
    rw [trim, trimEnd, ← List.reverse_append, List.takeWhile_append_dropWhile, List.reverse_reverse]
  rw [List.append_assoc, ← hend]
  exact List.takeWhile_append_dropWhile.symm

theorem trim_eq_nil_iff : trim s = [] ↔ IsWhite s := by
  constructor
  · intro h
    obtain ⟨front, back, hfront, hback, hs⟩ := exists_eq_append_trim s
    rw [hs, h, List.append_nil]
    exact isWhite_append.mpr ⟨hfront, hback⟩
  · intro h
    rw [trim, trimStart_eq_nil_iff.mpr h]
    rfl

theorem isBlankText_iff : isBlankText v = true ↔ IsWhite v.toList := by
  rw [isBlankText, List.isEmpty_iff, trim_eq_nil_iff]

/-! ## Letter case -/

/-- A capital is made small by its code point; everything else stays. -/
theorem toLower_cases (c : Char) :
    c.toLower = c ∨ 65 ≤ c.toNat ∧ c.toNat ≤ 90 ∧ c.toLower.toNat = c.toNat + 32 := by
  unfold Char.toLower
  split
  · rename_i hcapital
    have hfirst : 65 ≤ c.toNat := UInt32.le_iff_toNat_le.mp hcapital.1
    have hlast : c.toNat ≤ 90 := UInt32.le_iff_toNat_le.mp hcapital.2
    refine Or.inr ⟨hfirst, hlast, ?_⟩
    have hshift : ('a'.val - 'A'.val).toNat = 32 := rfl
    simp only [Char.toNat] at hlast ⊢
    rw [UInt32.toNat_add, hshift]
    omega
  · exact Or.inl rfl

theorem isWhiteSpace_of_letter {c : Char} (hfirst : 65 ≤ c.toNat) (hlast : c.toNat ≤ 122) :
    isWhiteSpace c = false := by
  simp only [isWhiteSpace, Bool.or_eq_false_iff, Bool.and_eq_false_iff, decide_eq_false_iff_not,
    beq_eq_false_iff_ne]
  omega

/-- No letter is white space, be it small or not. -/
theorem isWhiteSpace_toLower (c : Char) : isWhiteSpace c.toLower = isWhiteSpace c := by
  rcases toLower_cases c with h | ⟨hfirst, hlast, hlower⟩
  · rw [h]
  · rw [isWhiteSpace_of_letter hfirst (by omega), isWhiteSpace_of_letter (by omega) (by omega)]

theorem isWhiteSpace_comp_toLower : isWhiteSpace ∘ Char.toLower = isWhiteSpace :=
  funext isWhiteSpace_toLower

/-- Trimming and making letters small can be exchanged. -/
theorem asciiLower_trim (s : List Char) : asciiLower (trim s) = trim (asciiLower s) := by
  simp only [trim, trimStart, trimEnd, asciiLower, List.dropWhile_map, ← List.map_reverse,
    isWhiteSpace_comp_toLower]

/-- **`w` spells `v` in another way**: with other white space around it, or capitals for small letters or
    the reverse. Letters outside ASCII have to be the same. -/
def Respelled (v w : String) : Prop :=
  ∃ front core back, w.toList = front ++ core ++ back ∧ IsWhite front ∧ IsWhite back ∧
    asciiLower core = asciiLower v.toList

theorem Respelled.asciiLower_trim_eq (h : Respelled v w) :
    asciiLower (trim w.toList) = asciiLower (trim v.toList) := by
  obtain ⟨front, core, back, hw, hfront, hback, hcore⟩ := h
  rw [hw, trim_append hfront hback, asciiLower_trim, hcore, asciiLower_trim]

/-- Two spellings are compared alike with the words that a setting may be. -/
theorem Respelled.normalized_eq (h : Respelled v w) : normalized w = normalized v := by
  rw [normalized, normalized, h.asciiLower_trim_eq]

/-- Of two spellings both are blank, or none. -/
theorem Respelled.isBlankText_eq (h : Respelled v w) : isBlankText w = isBlankText v := by
  have hempty := congrArg List.isEmpty h.asciiLower_trim_eq
  rwa [asciiLower, asciiLower, List.isEmpty_map, List.isEmpty_map] at hempty

end Text

/-! ## Output formats -/

namespace OutputFormat

variable {v : String} {f : OutputFormat} {e : UnknownFormat} {setting : Option String}

theorem normalized_name (f : OutputFormat) : Text.normalized f.name = f.name := by
  cases f <;> decide

theorem ofName_eq_ok_iff_normalized : ofName v = .ok f ↔ Text.normalized v = f.name := by
  unfold ofName
  by_cases hjson : Text.normalized v = "json"
  · rw [if_pos hjson, hjson]
    cases f <;> simp [name]
  · rw [if_neg hjson]
    by_cases htable : Text.normalized v = "table"
    · rw [if_pos htable, htable]
      cases f <;> simp [name]
    · rw [if_neg htable]
      cases f <;> simp [name, hjson, htable]

/-- **A value names a format** if it is a spelling of the name. -/
theorem ofName_eq_ok_iff : ofName v = .ok f ↔ Text.Respelled f.name v := by
  rw [ofName_eq_ok_iff_normalized]
  constructor
  · intro h
    obtain ⟨front, back, hfront, hback, hv⟩ := Text.exists_eq_append_trim v.toList
    refine ⟨front, Text.trim v.toList, back, hv, hfront, hback, ?_⟩
    have hlower : Text.asciiLower f.name.toList = f.name.toList := by cases f <;> decide
    rw [hlower, ← h, Text.normalized, String.toList_ofList]
  · intro h
    rw [h.normalized_eq, normalized_name]

/-- Trimmed and in small letters, the value is the name of no format. -/
def IsUnknown (v : String) : Prop := Text.normalized v ≠ "json" ∧ Text.normalized v ≠ "table"

instance (v : String) : Decidable (IsUnknown v) := inferInstanceAs (Decidable (_ ∧ _))

theorem ofName_eq_error_iff : ofName v = .error e ↔ IsUnknown v ∧ e = ⟨v⟩ := by
  unfold ofName IsUnknown
  by_cases hjson : Text.normalized v = "json"
  · simp [hjson]
  · by_cases htable : Text.normalized v = "table"
    · simp [htable]
    · simp [hjson, htable, eq_comm]

/-- A blank value names no format. -/
theorem isUnknown_of_isWhite (h : Text.IsWhite v.toList) : IsUnknown v := by
  have hempty : Text.normalized v = "" := by
    rw [Text.normalized, Text.trim_eq_nil_iff.mpr h]
    rfl
  rw [IsUnknown, hempty]
  decide

/-- A blank setting is a missing one. -/
theorem ofSetting_of_isWhite (h : Text.IsWhite v.toList) : ofSetting (some v) = .ok json :=
  if_pos (Text.isBlankText_iff.mpr h)

/-- A setting that is not blank is read as an argument is. -/
theorem ofSetting_of_not_isWhite (h : ¬ Text.IsWhite v.toList) : ofSetting (some v) = ofName v :=
  if_neg fun hblank => h (Text.isBlankText_iff.mp hblank)

/-- **When a setting is wrong.** -/
theorem ofSetting_eq_error_iff : ofSetting setting = .error e ↔
    ∃ v, setting = some v ∧ ¬ Text.IsWhite v.toList ∧ IsUnknown v ∧ e = ⟨v⟩ := by
  cases setting with
  | none => simp [ofSetting]
  | some v =>
      simp only [Option.some.injEq, exists_eq_left']
      by_cases hwhite : Text.IsWhite v.toList
      · rw [ofSetting_of_isWhite hwhite]
        simp [hwhite]
      · rw [ofSetting_of_not_isWhite hwhite, ofName_eq_error_iff]
        simp [hwhite]

/-- A format is the same however it is spelled. -/
theorem ofSetting_eq_ok_iff_of_respelled {w : String} (h : Text.Respelled v w) :
    ofSetting (some w) = .ok f ↔ ofSetting (some v) = .ok f := by
  unfold ofSetting
  simp only [h.isBlankText_eq]
  split
  · rfl
  · rw [ofName_eq_ok_iff_normalized, ofName_eq_ok_iff_normalized, h.normalized_eq]

end OutputFormat

/-- A level is the same however it is spelled. -/
theorem Level.ofSetting_of_respelled {v w : String} (h : Text.Respelled v w) :
    ofSetting (some w) = ofSetting (some v) := by
  simp only [ofSetting, h.normalized_eq]

/-! ## Settings -/

namespace Settings

variable {env env₁ env₂ : Environment} {e : UnknownFormat} {s s₁ s₂ : Settings}

/-- **When reading the settings fails**: the output format is set to a value that is not blank and names no
    format. -/
theorem read_eq_error_iff : read env = .error e ↔
    ∃ v, env outputVariable = some v ∧ ¬ Text.IsWhite v.toList ∧ OutputFormat.IsUnknown v ∧
      e = ⟨v⟩ := by
  rw [← OutputFormat.ofSetting_eq_error_iff, read_eq]
  cases OutputFormat.ofSetting (env outputVariable) <;> simp [Except.map]

/-- **The look-ups end with the error**, or else all variables are asked for. -/
theorem trace_readAsking (env : Environment) :
    (∀ e, read env = .error e → (readAsking env).trace = [levelVariable, outputVariable]) ∧
      ∀ s, read env = .ok s → (readAsking env).trace = names := by
  have hread : read env = (readAsking env).value := rfl
  rw [hread]
  unfold readAsking ask
  cases houtput : OutputFormat.ofSetting (env outputVariable) with
  | error e => simp [houtput]
  | ok output => simp [houtput, names]

/-- What the variables share, the settings share. -/
theorem eq_of_read (h₁ : read env₁ = .ok s₁) (h₂ : read env₂ = .ok s₂) :
    (env₁ levelVariable = env₂ levelVariable → s₁.level = s₂.level) ∧
      (env₁ outputVariable = env₂ outputVariable → s₁.output = s₂.output) ∧
      (env₁ delimitersVariable = env₂ delimitersVariable → s₁.delimiters = s₂.delimiters) := by
  obtain ⟨houtput₁, hlevel₁, hdelimiters₁⟩ := read_eq_ok_iff.mp h₁
  obtain ⟨houtput₂, hlevel₂, hdelimiters₂⟩ := read_eq_ok_iff.mp h₂
  refine ⟨fun hsame => ?_, fun hsame => ?_, fun hsame => ?_⟩
  · rw [hlevel₁, hlevel₂, hsame]
  · rw [hsame, houtput₂] at houtput₁
    exact (Except.ok.inj houtput₁).symm
  · rw [hdelimiters₁, hdelimiters₂, hsame]

/-- **Spelling does not matter** to the settings. -/
theorem read_eq_ok_iff_of_respelled {name v w : String}
    (hname : name = levelVariable ∨ name = outputVariable) (hagree : env₁.AgreeBut name env₂)
    (h₁ : env₁ name = some v) (h₂ : env₂ name = some w) (h : Text.Respelled v w) :
    read env₂ = .ok s ↔ read env₁ = .ok s := by
  have hdelimiters : env₁ delimitersVariable = env₂ delimitersVariable := by
    refine hagree _ ?_
    rcases hname with rfl | rfl <;> decide
  rw [read_eq_ok_iff, read_eq_ok_iff, hdelimiters]
  rcases hname with rfl | rfl
  · have houtput : env₁ outputVariable = env₂ outputVariable := hagree _ (by decide)
    rw [houtput, h₁, h₂, Level.ofSetting_of_respelled h]
  · have hlevel : env₁ levelVariable = env₂ levelVariable := hagree _ (by decide)
    rw [hlevel, h₁, h₂, OutputFormat.ofSetting_eq_ok_iff_of_respelled h]

/-- The format of the settings, or why there are none, is what its variable says. -/
theorem map_output_read (env : Environment) :
    (read env).map (·.output) = OutputFormat.ofSetting (env outputVariable) := by
  rw [read_eq]
  cases OutputFormat.ofSetting (env outputVariable) <;> rfl

/-- **What the settings depend on.** Reading them fails exactly if the output format has a value that is
    not blank and, trimmed and in small letters, names no format; the error keeps the value as it is, and
    the delimiters are not looked up. Otherwise it succeeds, and every setting depends on its own variable
    alone. Another spelling of a level or of a format does not change the settings. A value that is not
    blank has the same outcome as an argument and in the environment: a spelling of `json` or of `table` is
    that format, everything else is an error. A blank one is an error as an argument and JSON in the
    environment. -/
theorem read_fieldwise :
    (∀ env e, read env = .error e ↔
      ∃ v, env outputVariable = some v ∧ ¬ Text.IsWhite v.toList ∧ OutputFormat.IsUnknown v ∧
        e = ⟨v⟩) ∧
      (∀ env, (∀ e, read env = .error e → (readAsking env).trace = [levelVariable, outputVariable]) ∧
        ∀ s, read env = .ok s → (readAsking env).trace = names) ∧
      (∀ env₁ env₂ s₁ s₂, read env₁ = .ok s₁ → read env₂ = .ok s₂ →
        (env₁ levelVariable = env₂ levelVariable → s₁.level = s₂.level) ∧
          (env₁ outputVariable = env₂ outputVariable → s₁.output = s₂.output) ∧
          (env₁ delimitersVariable = env₂ delimitersVariable → s₁.delimiters = s₂.delimiters)) ∧
      (∀ name env₁ env₂ v w s, name = levelVariable ∨ name = outputVariable →
        env₁.AgreeBut name env₂ → env₁ name = some v → env₂ name = some w → Text.Respelled v w →
        (read env₂ = .ok s ↔ read env₁ = .ok s)) ∧
      (∀ v env, ¬ Text.IsWhite v.toList → env outputVariable = some v →
        (read env).map (·.output) = OutputFormat.ofName v) ∧
      (∀ v f, OutputFormat.ofName v = .ok f ↔ Text.Respelled f.name v) ∧
      ∀ v env, Text.IsWhite v.toList → env outputVariable = some v →
        OutputFormat.ofName v = .error ⟨v⟩ ∧ ∃ s, read env = .ok s ∧ s.output = .json := by
  refine ⟨fun env e => read_eq_error_iff, trace_readAsking, ?_, ?_, ?_, ?_, ?_⟩
  · intro env₁ env₂ s₁ s₂ h₁ h₂
    exact eq_of_read h₁ h₂
  · intro name env₁ env₂ v w s hname hagree h₁ h₂ h
    exact read_eq_ok_iff_of_respelled hname hagree h₁ h₂ h
  · intro v env hwhite hv
    rw [map_output_read, hv, OutputFormat.ofSetting_of_not_isWhite hwhite]
  · intro v f
    exact OutputFormat.ofName_eq_ok_iff
  · intro v env hwhite hv
    refine ⟨OutputFormat.ofName_eq_error_iff.mpr ⟨OutputFormat.isUnknown_of_isWhite hwhite, rfl⟩, ?_⟩
    rw [read_eq, hv, OutputFormat.ofSetting_of_isWhite hwhite]
    exact ⟨_, rfl, rfl⟩

/-- A format between white space and with capitals, one with a letter that is no `s` in any case, and a blank
    one. -/
theorem read_fieldwise_spelled :
    read (Environment.ofList [(outputVariable, "\u3000TaBLe\u00a0"), (levelVariable, "debug")]) =
        .ok { level := .debug, output := .table } ∧
      (Settings.mk .debug .table [" "]).level = (Settings.mk .debug .json [";"]).level ∧
      (readAsking (Environment.ofList [(outputVariable, "J\u017fON")])).trace =
        [levelVariable, outputVariable] ∧
      (read (Environment.ofList [(outputVariable, "J\u017fON")])).map (·.output) =
        OutputFormat.ofName "J\u017fON" ∧
      OutputFormat.ofName "\u2003" = .error ⟨"\u2003"⟩ ∧
      ∃ s, read (Environment.ofList [(outputVariable, "\u2003")]) = .ok s ∧ s.output = .json := by
  obtain ⟨hfails, htrace, hfields, hspelled, hgiven, -, hblank⟩ := read_fieldwise
  have hplain : read (Environment.ofList [(outputVariable, "table"), (levelVariable, "debug")]) =
      .ok { level := .debug, output := .table } := rfl
  have hother : read (Environment.ofList [(levelVariable, "debug"), (delimitersVariable, ";")]) =
      .ok { level := .debug, delimiters := [";"] } := rfl
  have hagree : (Environment.ofList [(outputVariable, "table"), (levelVariable, "debug")]).AgreeBut
      outputVariable
      (Environment.ofList [(outputVariable, "\u3000TaBLe\u00a0"), (levelVariable, "debug")]) := by
    intro name hname
    have hne : (name == outputVariable) = false := beq_eq_false_iff_ne.mpr hname
    simp [Environment.ofList, List.lookup_cons, hne]
  have hrespelled : Text.Respelled "table" "\u3000TaBLe\u00a0" :=
    ⟨['\u3000'], "TaBLe".toList, ['\u00a0'], by decide, by decide, by decide, by decide⟩
  have hvisible : ¬ Text.IsWhite "J\u017fON".toList := by decide
  have hunknown : read (Environment.ofList [(outputVariable, "J\u017fON")]) = .error ⟨"J\u017fON"⟩ :=
    (hfails _ _).mpr ⟨_, rfl, hvisible, by decide, rfl⟩
  exact ⟨(hspelled _ _ _ _ _ _ (Or.inr rfl) hagree rfl rfl hrespelled).mpr hplain,
    (hfields _ _ _ _ hplain hother).1 rfl, (htrace _).1 _ hunknown, hgiven _ _ hvisible rfl,
    hblank "\u2003" _ (by decide) rfl⟩

end Settings

end MethodSig
