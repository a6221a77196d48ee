import FormulaOcr.Mode
import FormulaOcr.Text.Search
import FormulaOcr.Text.Uppercase

/-! What the id of a model tells about it. -/

namespace FormulaOcr.SiliconFlow

/-- A rule has a name and a test of model ids. -/
structure Rule where
  name : String
  accepts : List Char → Bool

def upperHas (word : String) (id : List Char) : Bool :=
  Text.occurs word.toList (Text.uppercase id)

def has (word : String) (id : List Char) : Bool :=
  Text.occurs word.toList id

/-- The last step of the id begins with `GLM-` and ends with `V`. -/
def isGlmVision (id : List Char) : Bool :=
  let last := Text.afterLast '/' id
  "GLM-".toList.isPrefixOf last && "V".toList.isSuffixOf last

/-- The rules for models that see pictures; the first one that accepts decides. -/
def visionRules : List Rule :=
  [⟨"vl", upperHas "VL"⟩,
   ⟨"ocr", upperHas "OCR"⟩,
   ⟨"paddleocr", upperHas "PADDLEOCR"⟩,
   ⟨"omni", upperHas "OMNI"⟩,
   ⟨"captioner", upperHas "CAPTIONER"⟩,
   ⟨"vl2", has "vl2"⟩,
   ⟨"kimi-k2.5", has "Kimi-K2.5"⟩,
   ⟨"glm-v", isGlmVision⟩]

/-- The rules for models that transcribe and do nothing else. -/
def ocrOnlyRules : List Rule :=
  [⟨"paddleocr", upperHas "PADDLEOCR"⟩,
   ⟨"deepseek-ocr", upperHas "DEEPSEEK-OCR"⟩,
   ⟨"captioner", upperHas "CAPTIONER"⟩]

def firstRule (rules : List Rule) (id : String) : Option String :=
  (rules.find? (·.accepts id.toList)).map (·.name)

/-- The names of the rules that decided about a model. -/
structure Classification where
  visionRule : Option String
  ocrOnlyRule : Option String
deriving DecidableEq, Repr

namespace Classification

def isVision (c : Classification) : Bool :=
  c.visionRule.isSome

def isOcrOnly (c : Classification) : Bool :=
  c.ocrOnlyRule.isSome

def modes (c : Classification) : List Mode :=
  if c.isOcrOnly then [.ocr] else [.formula, .ocr]

end Classification

def classify (id : String) : Classification where
  visionRule := firstRule visionRules id
  ocrOnlyRule := firstRule ocrOnlyRules id

/-- The name that a model is shown under: the last step of its id, marked if it is a paid
variant. -/
def displayName (id : String) : String :=
  let bare := Text.dropFront? "Pro/".toList id.toList
  let name := Text.dropBack "-Instruct".toList (Text.afterLast '/' (bare.getD id.toList))
  String.ofList (if bare.isSome then name ++ " (Pro)".toList else name)

end FormulaOcr.SiliconFlow
