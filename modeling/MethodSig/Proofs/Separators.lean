import MethodSig.Proofs.Cutting
import MethodSig.Proofs.Delimiters
import Mathlib.Data.List.Sort
import Mathlib.Tactic.TFAE

/-!
# `Proofs.Separators` — a splitter is what it does

A splitter keeps its separators in order and each once. That form is all there is to see of it: sets with
the same members are equal (`CharSet.eq_of_mem_iff`), and a splitter tells whether a character separates
by what it makes of that character alone (`Splitter.split_singleton`). So two splitters are equal exactly
if they split every text alike (`Splitter.eq_iff_split_eq`), and how the characters were grouped,
ordered or repeated in the delimiters shows neither in the tokens nor in the number of separators that
is logged (`run_split_congr`).
-/

namespace MethodSig

variable {c : Char}

/-! ## Sets -/

theorem CharSet.eq_of_toList {a b : CharSet} (h : a.toList = b.toList) : a = b := by
  cases a
  cases b
  cases h
  rfl

/-- Members in increasing order are members in the order of their code points. -/
theorem CharSet.pairwise_toNat_iff {l : List Char} :
    l.Pairwise (fun c d => c.toNat < d.toNat) ↔ l.Pairwise (· < ·) :=
  Iff.rfl

/-- A list that increases strictly is known by its members. -/
theorem CharSet.eq_toList_iff {a : CharSet} {l : List Char} :
    l = a.toList ↔ l.Pairwise (· < ·) ∧ ∀ c, c ∈ l ↔ c ∈ a.toList := by
  constructor
  · rintro rfl
    exact ⟨a.increasing, fun c => Iff.rfl⟩
  · rintro ⟨hl, hmem⟩
    exact hl.eq_of_mem_iff a.increasing hmem

/-- **A set is known by its members.** -/
theorem CharSet.eq_of_mem_iff {a b : CharSet} (h : ∀ c, c ∈ a.toList ↔ c ∈ b.toList) : a = b :=
  eq_of_toList (eq_toList_iff.mpr ⟨a.increasing, h⟩)

/-! ## Splitters -/

namespace Splitter

variable {s a b : Splitter}

/-- **A splitter is known by its separators.** -/
theorem eq_of_isSeparator (h : ∀ c, a.isSeparator c = b.isSeparator c) : a = b := by
  obtain ⟨separatorsA⟩ := a
  obtain ⟨separatorsB⟩ := b
  have hmem : ∀ c, c ∈ separatorsA.toList ↔ c ∈ separatorsB.toList := by
    intro c
    rw [← CharSet.contains_iff, ← CharSet.contains_iff]
    exact Bool.eq_iff_iff.mp (h c)
  rw [CharSet.eq_of_mem_iff hmem]

/-- A character alone is a token, unless it separates. -/
theorem split_singleton (s : Splitter) (c : Char) :
    s.split (String.ofList [c]) = if s.isSeparator c then [] else [String.ofList [c]] := by
  rw [split, String.toList_ofList]
  by_cases hc : s.isSeparator c = true
  · rw [if_pos hc, tokens_cons hc, tokens_nil, List.map_nil]
  · rw [if_neg hc, tokens_of_token (List.cons_ne_nil c []) (fun d hd => List.mem_singleton.mp hd ▸ hc)]
    rfl

/-- **A splitter is known by its tokens**: equal are those that split every text alike. -/
theorem eq_iff_split_eq : a = b ↔ ∀ source, a.split source = b.split source := by
  constructor
  · rintro rfl source
    rfl
  · intro h
    -- a text of one character tells whether that character separates
    refine eq_of_isSeparator fun c => ?_
    have hsplit := h (String.ofList [c])
    rw [split_singleton, split_singleton] at hsplit
    cases ha : a.isSeparator c <;> cases hb : b.isSeparator c <;> simp_all

theorem mem_separators_ofDelimiters {delimiters : List String} :
    c ∈ (ofDelimiters delimiters).separators.toList ↔ IsDelimiter delimiters c := by
  rw [← CharSet.contains_iff]
  exact isSeparator_ofDelimiters

theorem ofDelimiters_eq_iff {d e : List String} :
    ofDelimiters d = ofDelimiters e ↔ ∀ c, IsDelimiter d c ↔ IsDelimiter e c := by
  constructor
  · intro h c
    rw [← mem_separators_ofDelimiters, ← mem_separators_ofDelimiters, h]
  · intro h
    refine eq_of_isSeparator fun c => Bool.eq_iff_iff.mpr ?_
    rw [isSeparator_ofDelimiters, isSeparator_ofDelimiters]
    exact h c

end Splitter

/-! ## Runs -/

namespace CommandLine

variable {d e rest : List String} {settings : Settings} {env outside : Environment}

/-- **Delimiters with the same characters come to the same**, if there are any. -/
theorem run_split_congr {output : Option OutputFormat} {source : String} (hd : d ≠ []) (he : e ≠ [])
    (hsame : Splitter.ofDelimiters d = Splitter.ofDelimiters e) :
    (Request.command (.split output d source)).run settings outside =
      (Request.command (.split output e source)).run settings outside := by
  have hchosen : ∀ {l : List String}, l ≠ [] → chosenDelimiters settings l = l ∧ choiceEvents l = [] := by
    intro l hl
    cases l with
    | nil => exact absurd rfl hl
    | cons v l => exact ⟨rfl, rfl⟩
  rw [run_split (Splitter.ofDelimiters d) (by rw [(hchosen hd).1]),
    run_split (Splitter.ofDelimiters d) (by rw [(hchosen he).1, hsame]), (hchosen hd).2, (hchosen he).2]

/-- The request with further delimiters in front. -/
def Request.addDelimiters (d : List String) : Request → Request
  | .command (.split output e source) => .command (.split output (d ++ e) source)
  | request => request

theorem Request.addDelimiters_nil (request : Request) : request.addDelimiters [] = request := by
  rcases request with topic | (⟨output, text⟩ | ⟨output, e, source⟩) <;> rfl

theorem Request.addDelimiters_cons (v : String) (d : List String) (request : Request) :
    request.addDelimiters (v :: d) = (request.addDelimiters d).addDelimiter v := by
  rcases request with topic | (⟨output, text⟩ | ⟨output, e, source⟩) <;> rfl

/-- Delimiters add themselves and change nothing else, whatever follows. -/
theorem Request.ofArguments_append_delimiters (d rest : List String) :
    Request.ofArguments ("split" :: (d.map delimiterArgument ++ rest)) =
      (Request.ofArguments ("split" :: rest)).map (Request.addDelimiters d) := by
  induction d with
  | nil =>
      rw [List.map_nil, List.nil_append, funext Request.addDelimiters_nil]
      cases Request.ofArguments ("split" :: rest) <;> rfl
  | cons v d ih =>
      rw [List.map_cons, List.cons_append, Request.ofArguments_cons_delimiter, ih,
        funext (Request.addDelimiters_cons v d)]
      cases Request.ofArguments ("split" :: rest) <;> rfl

theorem Request.run_addDelimiters_congr (hd : d ≠ []) (he : e ≠ [])
    (hsame : Splitter.ofDelimiters d = Splitter.ofDelimiters e) (request : Request) :
    (request.addDelimiters d).run settings outside = (request.addDelimiters e).run settings outside := by
  rcases request with topic | (⟨output, text⟩ | ⟨output, f, source⟩)
  · rfl
  · rfl
  · -- further delimiters among the other arguments join both collections alike
    have hjoint : Splitter.ofDelimiters (d ++ f) = Splitter.ofDelimiters (e ++ f) := by
      refine Splitter.eq_of_isSeparator fun c => ?_
      rw [Splitter.isSeparator_ofDelimiters_append, Splitter.isSeparator_ofDelimiters_append, hsame]
    exact run_split_congr (List.append_ne_nil_of_left_ne_nil hd f)
      (List.append_ne_nil_of_left_ne_nil he f) hjoint

/-- **Runs with the same delimiter characters are the same**, however these are written. -/
theorem runIn_split_congr {arguments₁ arguments₂ : List String} {output : Option OutputFormat}
    {source : String} (hd : d ≠ []) (he : e ≠ [])
    (hsame : Splitter.ofDelimiters d = Splitter.ofDelimiters e)
    (h₁ : Request.ofArguments arguments₁ = .ok (.command (.split output d source)))
    (h₂ : Request.ofArguments arguments₂ = .ok (.command (.split output e source))) :
    runIn env arguments₁ = runIn env arguments₂ := by
  cases hread : Settings.read env with
  | error error => rw [runIn_of_misread hread, runIn_of_misread hread]
  | ok settings =>
      rw [runIn_of_request hread h₁, runIn_of_request hread h₂]
      exact run_split_congr hd he hsame

/-- Neither do the other arguments matter, accepted or not. -/
theorem runIn_delimiters_congr (hd : d ≠ []) (he : e ≠ [])
    (hsame : Splitter.ofDelimiters d = Splitter.ofDelimiters e) :
    runIn env ("split" :: (d.map delimiterArgument ++ rest)) =
      runIn env ("split" :: (e.map delimiterArgument ++ rest)) := by
  have hd' := Request.ofArguments_append_delimiters d rest
  have he' := Request.ofArguments_append_delimiters e rest
  cases hread : Settings.read env with
  | error error => rw [runIn_of_misread hread, runIn_of_misread hread]
  | ok settings =>
      cases harguments : Request.ofArguments ("split" :: rest) with
      | error error =>
          rw [harguments] at hd' he'
          rw [runIn_of_misused hread hd', runIn_of_misused hread he']
      | ok request =>
          rw [harguments] at hd' he'
          rw [runIn_of_request hread hd', runIn_of_request hread he']
          exact request.run_addDelimiters_congr hd he hsame

end CommandLine

/-! ## Delimiters that come to the same -/

open CommandLine in
/-- **Splitters are equal exactly if they do the same.** For any two collections of delimiters it is the
    same that the splitters are equal, that the delimiters have the same characters, that the same
    characters separate, and that every text is split into the same tokens. The separators are listed in
    the order of their code points, each once: they are the only such list of the characters of the
    delimiters. On the command line delimiters with the same characters give the same answer, if there
    are any: both where two vectors of arguments are accepted that differ in nothing else, however they
    are written, and where the delimiters stand by the name of their option in front of any other
    arguments, accepted or not. -/
theorem ofDelimiters_tfae (d e : List String) :
    List.TFAE
        [Splitter.ofDelimiters d = Splitter.ofDelimiters e,
          ∀ c, IsDelimiter d c ↔ IsDelimiter e c,
          ∀ c, (Splitter.ofDelimiters d).isSeparator c = (Splitter.ofDelimiters e).isSeparator c,
          ∀ source, (Splitter.ofDelimiters d).split source = (Splitter.ofDelimiters e).split source] ∧
      (∀ l : List Char, (Splitter.ofDelimiters d).separators.toList = l ↔
        l.Pairwise (fun a b => a.toNat < b.toNat) ∧ ∀ c, c ∈ l ↔ IsDelimiter d c) ∧
      (d ≠ [] → e ≠ [] → (∀ c, IsDelimiter d c ↔ IsDelimiter e c) →
        ∀ (env : Environment) (file : Option String),
          (∀ (arguments₁ arguments₂ : List String) (output : Option OutputFormat) (source : String),
            Request.ofArguments arguments₁ = .ok (.command (.split output d source)) →
            Request.ofArguments arguments₂ = .ok (.command (.split output e source)) →
            run arguments₁ env file = run arguments₂ env file ∧ ∀ w,
              (run arguments₁ env file).answer w arguments₁ =
                (run arguments₂ env file).answer w arguments₂) ∧
          ∀ rest : List String,
            run ("split" :: (d.map delimiterArgument ++ rest)) env file =
              run ("split" :: (e.map delimiterArgument ++ rest)) env file) := by
  refine ⟨?_, ?_, ?_⟩
  · tfae_have 1 ↔ 2 := Splitter.ofDelimiters_eq_iff
    tfae_have 1 ↔ 4 := Splitter.eq_iff_split_eq
    tfae_have 1 → 3 := by
      intro h c
      rw [h]
    tfae_have 3 → 1 := Splitter.eq_of_isSeparator
    tfae_finish
  · intro l
    rw [eq_comm, CharSet.eq_toList_iff, CharSet.pairwise_toNat_iff]
    simp only [Splitter.mem_separators_ofDelimiters]
  · intro hd he hmem env file
    have hsame : Splitter.ofDelimiters d = Splitter.ofDelimiters e :=
      Splitter.ofDelimiters_eq_iff.mpr hmem
    constructor
    · intro arguments₁ arguments₂ output source h₁ h₂
      have hrun : run arguments₁ env file = run arguments₂ env file :=
        run_congr (fun _ => runIn_split_congr hd he hsame h₁ h₂) env file
      refine ⟨hrun, fun w => ?_⟩
      rw [← hrun]
      exact Outcome.answer_congr fun husage => absurd husage (result_ne_usage h₁)
    · intro rest
      exact run_congr (fun _ => runIn_delimiters_congr hd he hsame) env file

open CommandLine in
theorem ofDelimiters_tfae_regrouped :
    Splitter.ofDelimiters [",;", "", "a,"] = Splitter.ofDelimiters [";a,"] ∧
      (Splitter.ofDelimiters [",;", "", "a,"]).split "b;a,c" =
        (Splitter.ofDelimiters [";a,"]).split "b;a,c" ∧
      (Splitter.ofDelimiters [";a,"]).separators.toList = [',', ';', 'a'] ∧
      run ["split", "-d,;", "-d", "", "b;a,c", "--delimiter=a,"]
          (Environment.ofList [(Settings.levelVariable, "trace")]) none =
        run ["split", "b;a,c", "-d=;a,"] (Environment.ofList [(Settings.levelVariable, "trace")]) none := by
  have hsame : Splitter.ofDelimiters [",;", "", "a,"] = Splitter.ofDelimiters [";a,"] := by decide
  have hmem : ∀ c, IsDelimiter [",;", "", "a,"] c ↔ IsDelimiter [";a,"] c :=
    ((ofDelimiters_tfae _ _).1.out 0 1).mp hsame
  have hsplit : ∀ source, (Splitter.ofDelimiters [",;", "", "a,"]).split source =
      (Splitter.ofDelimiters [";a,"]).split source := ((ofDelimiters_tfae _ _).1.out 0 3).mp hsame
  have hlisted : [',', ';', 'a'].Pairwise (fun a b => a.toNat < b.toNat) ∧
      ∀ c, c ∈ [',', ';', 'a'] ↔ IsDelimiter [";a,"] c := by
    refine ⟨by decide, fun c => ?_⟩
    rw [← Splitter.mem_separators_ofDelimiters]
    exact Iff.rfl
  have hruns := (ofDelimiters_tfae [",;", "", "a,"] [";a,"]).2.2 (by decide) (by decide) hmem
    (Environment.ofList [(Settings.levelVariable, "trace")]) none
  exact ⟨hsame, hsplit _, ((ofDelimiters_tfae [";a,"] []).2.1 _).mpr hlisted,
    (hruns.1 _ _ none "b;a,c" (by rfl) (by rfl)).1⟩

end MethodSig
