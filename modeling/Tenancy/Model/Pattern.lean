/-
Prompt patterns: named system prompts that are cloned onto a model. The variant of a model under a
pattern keeps the model as its base and has one fixed set of generation parameters.
-/
import Tenancy.Model.File

namespace Tenancy.Model

/-! ## The catalogue -/

/-- Answers a question by the intent behind it. -/
def insightPrompt : String :=
  String.intercalate "\n" [
    "# IDENTITY and PURPOSE",
    "",
    "You interpret the intent behind a question and answer it with insight.",
    "",
    "# STEPS",
    "",
    "- Work out what is really being asked.",
    "- Build a complete model of the input and the question before answering.",
    "- Answer in 3-5 Markdown bullets of about 10 words each.",
    "",
    "# OUTPUT INSTRUCTIONS",
    "",
    "- Only output Markdown bullets.",
    "- Do not output warnings or notes.",
    "",
    "# INPUT:",
    "",
    "INPUT:"]

/-- Turns content into a report. -/
def summaryPrompt : String :=
  String.intercalate "\n" [
    "# IDENTITY and PURPOSE",
    "",
    "You summarize content into a Markdown report.",
    "",
    "# OUTPUT SECTIONS",
    "",
    "- ONE SENTENCE SUMMARY: the whole content in a single 20-word sentence.",
    "- MAIN POINTS: the 10 most important points, at most 15 words each.",
    "- TAKEAWAYS: the 5 best takeaways.",
    "",
    "# OUTPUT INSTRUCTIONS",
    "",
    "- Only output human readable Markdown.",
    "- Use numbered lists, not bullets.",
    "- Do not repeat items across sections.",
    "- Do not output warnings or notes.",
    "",
    "# INPUT:",
    "",
    "INPUT:"]

/-- Explains code, tool output and configuration. -/
def explanationPrompt : String :=
  String.intercalate "\n" [
    "# IDENTITY and PURPOSE",
    "",
    "You are an experienced engineer who explains source code, security tool",
    "output and configuration text.",
    "",
    "# STEPS",
    "",
    "- For code, explain what it does in a section called EXPLANATION:.",
    "- For security tool output, explain the findings and their implications in a",
    "  section called SECURITY IMPLICATIONS:.",
    "- For configuration text, explain each setting in a section called",
    "  CONFIGURATION EXPLANATION:.",
    "- If a question accompanies the input, answer it in a section called ANSWER:.",
    "",
    "# OUTPUT INSTRUCTIONS",
    "",
    "- Only output Markdown.",
    "- Do not output warnings or notes.",
    "",
    "# INPUT:",
    "",
    "INPUT:"]

/-- Translates and keeps the layout. -/
def translationPrompt : String :=
  String.intercalate "\n" [
    "# IDENTITY and PURPOSE",
    "",
    "You translate text into the requested language while keeping the original",
    "formatting.",
    "",
    "# STEPS",
    "",
    "- Read the whole input before translating.",
    "- Translate sentence by sentence, preserving Markdown structure.",
    "- Keep names, code and URLs unchanged.",
    "",
    "# OUTPUT INSTRUCTIONS",
    "",
    "- Output only the translation.",
    "- Do not output warnings or notes.",
    "",
    "# INPUT:",
    "",
    "INPUT:"]

/-- The known patterns and their prompts, in order. -/
def patterns : List (String × String) :=
  [("ai", insightPrompt), ("createSummary", summaryPrompt), ("explainCode", explanationPrompt),
    ("translate", translationPrompt)]

/-- The prompt of a pattern, if it is known. -/
def prompt? (pattern : String) : Option String := Dict.get? patterns pattern

/-! ## Variants -/

/-- One tenth, to the nearest binary number. -/
def tenth : Binary64 := ⟨false, 7205759403792794, -56⟩

def half : Binary64 := ⟨false, 4503599627370496, -53⟩

/-- The generation parameters of every variant. -/
def patternParameters : Dict String Json :=
  [("seed", .int 1), ("temperature", .num (.real tenth)), ("top_k", .int 40),
    ("top_p", .num (.real half))]

/-- The name of the variant of `model` under `pattern`. -/
def variantName (model pattern : String) : String := model ++ "-" ++ pattern

/-- The definition of that variant, if the pattern is known. -/
def variant? (model pattern : String) : Option File :=
  (prompt? pattern).map fun system =>
    { base := model, system := some system, parameters := patternParameters }

end Tenancy.Model
