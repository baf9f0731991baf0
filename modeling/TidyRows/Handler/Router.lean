import TidyRows.Csv.Written
import TidyRows.Handler.Basic
import TidyRows.Upsert.Run
namespace TidyRows
namespace Handler

def csvExport : Handler (Option String) := fun call last =>
  match call.target.strategy with
  | .csvExport => (.ok (), some (Csv.ofRows call.rows))
  | .externalUpsert => refuse call last

structure BoardWork (σ : Type) where
  state : σ
  now : Nat
  last : Option UpsertResult

def BoardWork.start (state : σ) : BoardWork σ := ⟨state, 0, none⟩

-- Rows that fail do not make the call fail. When it does, the last result stays.
def upsert (board : Board σ) (stopsAt : StopTime σ) (settings : UpsertSettings) : Handler (BoardWork σ) :=
  fun call work =>
    match call.target.strategy with
    | .csvExport => refuse call work
    | .externalUpsert =>
      let e := Upsert.run board stopsAt settings call.target call.rows work.now work.state
      match e.result with
      | .ok result => (.ok (), ⟨e.state, e.now, some result⟩)
      | .error fault => (.error fault, ⟨e.state, e.now, work.last⟩)

end Handler

structure Router (σ : Type) where
  csvExport : Option (Handler σ)
  upsert : Option (Handler σ)

def Router.write (r : Router σ) : Handler σ := fun call s =>
  match call.target.strategy with
  | .csvExport => (r.csvExport.getD .refuse) call s
  | .externalUpsert => (r.upsert.getD .refuse) call s

end TidyRows
