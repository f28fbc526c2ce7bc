import Plateau.Report.Render
import Plateau.Settings.Section

namespace Plateau.Report

open Console (Device)

/-- A report in the form that the settings ask for; documents come before bare positions. -/
def format (device : Device) (settings : OutputSettings) (r : Report) : Rendering :=
  if settings.json then .ok (Json.Layout.pretty.value 0 r.toValue)
  else if settings.quiet then .ok (renderQuiet r)
  else render (screen device settings.color settings.width) settings.verbose r

/-- What a failed operation completed before its error.  A document holds it already. -/
def formatPartial (device : Device) (settings : OutputSettings) (r : Report) : Rendering :=
  if r.ok || settings.json then .ok []
  else if settings.quiet then .ok (outputOf (.record r.data))
  else renderPartial (screen device settings.color settings.width) r

end Plateau.Report
