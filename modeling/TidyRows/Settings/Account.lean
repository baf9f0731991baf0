import TidyRows.Board.Remote
import TidyRows.Settings.Basic
namespace TidyRows

def BoardSettings.account (s : BoardSettings) (token : String) : Except Fault Account :=
  match Url.ofText s.apiUrl with
  | .ok url => .ok ⟨url, token, s.apiVersion⟩
  | .error fault => .error (.configuration (.apiUrl s.apiUrl fault))

end TidyRows
