import MethodSig.Proofs.Arguments
import MethodSig.Proofs.Ending
import MethodSig.Proofs.Json.RoundTrip
import MethodSig.Proofs.Json.Unique

/-!
# `Proofs.Printed` — what is printed as JSON says what was computed

A text of JSON has one value, so what is printed determines what a reader of it learns, whichever reader it
is (`isDocument_line_iff`). For a signature the program has a reader of its own, which gets the signature
back (`ofJson_line`).

The format and the delimiters of a run come from its arguments or else from its settings; `run_prints_json`
puts both together.
-/

namespace MethodSig

open Json

/-! ## Lines of JSON -/

namespace Json

variable {v v' : Json}

/-- A value as a line of its own. -/
def line (v : Json) : String := v.pretty ++ "\n"

/-- The line feed behind a value is a blank. -/
theorem Proper.isDocument_line (h : v.Proper) : IsDocument v v.line.toList := by
  have hfeed : IsSpaces ['\n'] := by
    intro c hc
    rw [List.mem_singleton.mp hc]
    rfl
  obtain ⟨a, t, b, ha, ht, hb, heq⟩ := h.isDocument_pretty
  refine ⟨a, t, b ++ ['\n'], ha, ht, hb.append hfeed, ?_⟩
  rw [line, String.toList_append, heq]
  simp

/-- **What is printed has one value**, which is the one that was printed. -/
theorem Proper.isDocument_line_iff (h : v.Proper) : IsDocument v' v.line.toList ↔ v' = v := by
  constructor
  · intro h'
    exact h'.unique h.isDocument_line
  · rintro rfl
    exact h.isDocument_line

end Json

/-- **A printed signature is read back.** -/
theorem Signature.ofJson_line (d : Signature) : Signature.ofJson d.toJson.line = .ok d :=
  Signature.readsAll_read.readAll d.proper_toJson.isDocument_line d.describedBy_toJson

namespace CommandLine

theorem proper_tokensToJson (tokens : List String) : (tokensToJson tokens).Proper := by
  refine .array fun v hv => ?_
  obtain ⟨token, -, rfl⟩ := List.mem_map.mp hv
  exact .string

/-! ## Runs -/

variable {arguments : List String} {env loaded : Environment} {file : Option String} {settings : Settings}
  {output : Option OutputFormat} {text source : String} {delimiters : List String} {d : Signature}
  {f : OutputFormat}

/-- `text` is printed behind the log, which consists of complete lines. -/
def Outcome.Prints (o : Outcome) (text : String) : Prop :=
  o.stdout = unlines o.lines ++ text ∧ ∀ line ∈ o.lines, OneLine line

theorem prints_of_succeedsWith (hload : withFile env file = .ok loaded)
    (h : SucceedsWith loaded arguments text) : (run arguments env file).Prints text := by
  refine ⟨?_, oneLine_of_mem_lines⟩
  rw [run_of_loaded hload, Outcome.stdout_eq, Outcome.printed, h.result_eq]

/-- The format of a command that is in use. -/
theorem Command.format_eq {c : Command}
    (harguments : Request.ofArguments arguments = .ok (.command c))
    (hf : outputInUse settings arguments = .ok f) : c.format settings = f := by
  rw [outputInUse_eq harguments] at hf
  cases hf
  rfl

/-- A run for a signature succeeds exactly if the text holds one. -/
theorem exit_signature_eq_zero_iff (hload : withFile env file = .ok loaded)
    (hread : Settings.read loaded = .ok settings)
    (harguments : Request.ofArguments arguments = .ok (.command (.signature output text))) :
    (run arguments env file).exit = 0 ↔ ∃ d, Signature.parse text = .ok d := by
  rw [run_of_loaded hload, runIn_of_request hread harguments]
  cases hparse : Signature.parse text with
  | error why =>
      rw [run_signature_of_error hparse]
      simp [Outcome.exit]
  | ok d =>
      rw [run_signature_of_ok hparse]
      simp [Outcome.exit]

/-- A run for a signature prints it in the format in use. -/
theorem prints_showSignature (hload : withFile env file = .ok loaded)
    (hread : Settings.read loaded = .ok settings)
    (harguments : Request.ofArguments arguments = .ok (.command (.signature output text)))
    (hf : outputInUse settings arguments = .ok f) (hparse : Signature.parse text = .ok d) :
    (run arguments env file).Prints (showSignature d f) := by
  have hformat : output.getD settings.output = f := Command.format_eq harguments hf
  have hsucceeds := SucceedsWith.signature hread harguments hparse
  rw [hformat] at hsucceeds
  exact prints_of_succeedsWith hload hsucceeds

/-- In JSON it is a line. -/
theorem prints_signature (hload : withFile env file = .ok loaded)
    (hread : Settings.read loaded = .ok settings)
    (harguments : Request.ofArguments arguments = .ok (.command (.signature output text)))
    (hjson : outputInUse settings arguments = .ok .json) (hparse : Signature.parse text = .ok d) :
    (run arguments env file).Prints d.toJson.line := by
  have hprints := prints_showSignature hload hread harguments hjson hparse
  exact hprints

/-- A run for tokens succeeds with those at the delimiters in use, in the format in use. -/
theorem succeedsWith_split (hread : Settings.read loaded = .ok settings)
    (harguments : Request.ofArguments arguments = .ok (.command (.split output delimiters source)))
    (hf : outputInUse settings arguments = .ok f) :
    SucceedsWith loaded arguments
      (showTokens ((Splitter.ofDelimiters (delimitersInUse settings arguments)).split source) f) := by
  have hformat : output.getD settings.output = f := Command.format_eq harguments hf
  have hsucceeds := SucceedsWith.split hread harguments
  rw [hformat, chosenDelimiters, ← delimitersInUse_eq harguments] at hsucceeds
  exact hsucceeds

/-- **JSON is faithful end to end.** Let the settings be right and the format in use be JSON, whether the
    arguments or the settings ask for it. Then a run for a signature has the status 0 exactly if the text
    holds a signature, and prints a line behind its log from which that signature is read back. A run for
    tokens always has the status 0 and prints a line behind its log that has, as a text of JSON, one value:
    the array of the tokens at the delimiters in use. -/
theorem run_prints_json (hload : withFile env file = .ok loaded)
    (hread : Settings.read loaded = .ok settings)
    (hjson : outputInUse settings arguments = .ok .json) :
    (∀ output text, Request.ofArguments arguments = .ok (.command (.signature output text)) →
      ((run arguments env file).exit = 0 ↔ ∃ d, Signature.parse text = .ok d) ∧
        ∀ d, Signature.parse text = .ok d →
          (run arguments env file).Prints (d.toJson.pretty ++ "\n") ∧
            Signature.ofJson (d.toJson.pretty ++ "\n") = .ok d) ∧
      ∀ output delimiters source,
        Request.ofArguments arguments = .ok (.command (.split output delimiters source)) →
        (run arguments env file).exit = 0 ∧
          ∃ tokens, (Splitter.ofDelimiters (delimitersInUse settings arguments)).split source = tokens ∧
            (run arguments env file).Prints ((tokensToJson tokens).pretty ++ "\n") ∧
            ∀ v, IsDocument v ((tokensToJson tokens).pretty ++ "\n").toList ↔
              v = .array (tokens.map .string) := by
  constructor
  · intro output text harguments
    refine ⟨exit_signature_eq_zero_iff hload hread harguments, ?_⟩
    intro d hparse
    exact ⟨prints_signature hload hread harguments hjson hparse, d.ofJson_line⟩
  · intro output delimiters source harguments
    have hsucceeds := succeedsWith_split hread harguments hjson
    refine ⟨(EndsAt.succeeds hload hsucceeds).exit_eq, _, rfl, prints_of_succeedsWith hload hsucceeds, ?_⟩
    intro v
    exact (proper_tokensToJson _).isDocument_line_iff

/-- An environment that asks for tables. -/
def tableEnvironment : Environment := .ofList [(Settings.outputVariable, "table")]

/-- The format of the arguments wins over that of the settings, and an empty delimiter over theirs. -/
theorem run_prints_json_given :
    Settings.read tableEnvironment = .ok { output := .table } ∧
      Signature.ofJson ((Signature.mk none "int" "f" [⟨"T", "x"⟩]).toJson.pretty ++ "\n") =
        .ok (Signature.mk none "int" "f" [⟨"T", "x"⟩]) ∧
      (run ["signature", "int f(T x)", "--output=json"] tableEnvironment none).Prints
        ((Signature.mk none "int" "f" [⟨"T", "x"⟩]).toJson.pretty ++ "\n") ∧
      (run ["split", "-d", "", "-oJSON", "a b\"c"] tableEnvironment none).Prints
        ((tokensToJson ["a b\"c"]).pretty ++ "\n") := by
  have hload : withFile tableEnvironment none = .ok tableEnvironment := rfl
  have hread : Settings.read tableEnvironment = .ok { output := .table } :=
    eq_ok_of_toOption (by decide +kernel)
  have hsignature : Request.ofArguments ["signature", "int f(T x)", "--output=json"] =
      .ok (.command (.signature (some .json) "int f(T x)")) := eq_ok_of_toOption (by decide +kernel)
  have hparse : Signature.parse "int f(T x)" = .ok ⟨none, "int", "f", [⟨"T", "x"⟩]⟩ :=
    eq_ok_of_toOption (by decide +kernel)
  have hsplit : Request.ofArguments ["split", "-d", "", "-oJSON", "a b\"c"] =
      .ok (.command (.split (some .json) [""] "a b\"c")) := eq_ok_of_toOption (by decide +kernel)
  have hsignatureJson : outputInUse { output := .table } ["signature", "int f(T x)", "--output=json"] =
      .ok .json := eq_ok_of_toOption (by decide +kernel)
  have hsplitJson : outputInUse { output := .table } ["split", "-d", "", "-oJSON", "a b\"c"] =
      .ok .json := eq_ok_of_toOption (by decide +kernel)
  obtain ⟨-, hprinted⟩ := (run_prints_json hload hread hsignatureJson).1 _ _ hsignature
  obtain ⟨-, tokens, htokens, hprints, -⟩ := (run_prints_json hload hread hsplitJson).2 _ _ _ hsplit
  obtain rfl : tokens = ["a b\"c"] := by
    rw [← htokens]
    decide +kernel
  exact ⟨hread, (hprinted _ hparse).2, (hprinted _ hparse).1, hprints⟩

end CommandLine

end MethodSig
