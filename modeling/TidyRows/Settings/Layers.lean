import TidyRows.Settings.Basic
import TidyRows.Settings.Environment
import TidyRows.Toml.Read
namespace TidyRows
namespace Settings

def ofFile : Option String → Except Fault Setting
  | none => .ok (.table [])
  | some text => match Toml.ofText? text with
    | some v => .ok v
    | none => .error (.configuration .unreadable)

def ofText (text : String) : Except Fault Settings := (ofFile (some text)).bind ofSetting

def load (file : Option String) (environment : List (String × String)) : Except Fault Settings :=
  (ofFile file).bind fun v => ofSetting (v.laidOver (Environment.toSetting environment))

end Settings
end TidyRows
