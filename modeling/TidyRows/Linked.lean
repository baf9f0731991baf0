import TidyRows.Linked.Pattern.Read
import TidyRows.Linked.Zone
namespace TidyRows

def Pattern.unreadable : String := "it cannot be read"

namespace Linked

-- What the program itself runs with: the zones by their rules since 2008, and patterns as far as they are understood here.
scoped instance libraries : Libraries where
  zone? name := (Zone.ofName? name).map Zone.offsets
  compile text := (Pattern.ofText? text).elim (.error Pattern.unreadable) fun p => .ok p.occursIn

end Linked
end TidyRows
