import OptimizrActions.Lib.Marker
import OptimizrActions.Lib.Template
import OptimizrActions.Lib.Text

/-! The section of the central audit issue that holds the report. -/

namespace OptimizrActions.OrgAudit

open Marker (Markers)

def startMarker : List Char := "<!-- optimizr-actions-audit:start -->".toList

def endMarker : List Char := "<!-- optimizr-actions-audit:end -->".toList

def markers : Markers Char where
  opening := '<'
  start := startMarker
  stop := endMarker
  start_tag := ⟨startMarker.tail, rfl, by decide⟩
  stop_tag := ⟨endMarker.tail, rfl, by decide⟩
  start_ne := by decide
  stop_ne := by decide

/-- `report.rstrip()` -/
def rstrip (report : List Char) : List Char := (report.reverse.dropWhile Text.isSpace).reverse

def reportSection (report : List Char) : List Char :=
  startMarker ++ '\n' :: (rstrip report ++ '\n' :: endMarker)

/-- `pattern.sub(section, body)`, where the section is read as a template. -/
def substitute (section_ body : List Char) : Except Template.Error (List Char) := do
  let pieces ← Template.parse section_
  .ok (Marker.join (fun inner => Template.expand pieces (markers.wrap inner)) (markers.split body))

def updateMarkedSection (body report : List Char) : Except Template.Error (List Char) :=
  if (markers.next body).isSome then substitute (reportSection report) body
  else
    let separator := if body.getLast? = some '\n' ∨ body = [] then ['\n'] else ['\n', '\n']
    .ok (body ++ (separator ++ (reportSection report ++ ['\n'])))

end OptimizrActions.OrgAudit
