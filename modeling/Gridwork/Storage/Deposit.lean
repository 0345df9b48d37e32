import Gridwork.Event
import Gridwork.Storage.Content
import Gridwork.Storage.Store

/-!
# Deposits

A deposit is an attempt to store something, together with what it reports: a file that has been
written is announced with its path and size, a failure is not announced.
-/

namespace Gridwork

/-- What came of storing: the files afterwards, the path or the failure, and the events. -/
structure Deposit where
  files : FileSystem FileContent
  result : Except StoreFailure Path
  events : List Event

namespace Deposit

/-- The events of storing. -/
def eventsOf (content : FileContent) : Except StoreFailure Path → List Event
  | .ok path => [.savedWorkbook path.text content.size]
  | .error _ => []

/-- Stores something in a directory. -/
def make (files : FileSystem FileContent) (directory : Path) (name : String)
    (content : FileContent) : Deposit :=
  let (files, result) := Store.save files directory name content
  ⟨files, result, eventsOf content result⟩

end Deposit

end Gridwork
