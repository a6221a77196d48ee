import FormulaOcr.Mode

/-! The instructions that go with a picture. -/

namespace FormulaOcr.Recognition

def prompt : Mode → String
  | .formula =>
    "Recognize the math formula in the image. Return only the raw LaTeX code: " ++
    "do not wrap it in a markdown code block, do not add $ delimiters, do not explain."
  | .ocr =>
    "Recognize all text in the image and keep the original layout. " ++
    "Return only the recognized text, do not explain."
  | .document =>
    "Recognize everything in the image (text, formulas, tables) and return it as Markdown. " ++
    "Wrap inline formulas in $...$ and display formulas in $$...$$, use Markdown table syntax " ++
    "for tables, and keep the original structure. Do not explain."

/-- The instruction to check a transcription against the picture. -/
def verificationPrompt (formula : String) : String :=
  "Check the following LaTeX formula against the image. If it is correct, return it unchanged; " ++
  "if it has errors, return the corrected formula. Return only the final raw LaTeX code, " ++
  "do not explain.\n\nRecognition result: " ++ formula

end FormulaOcr.Recognition
