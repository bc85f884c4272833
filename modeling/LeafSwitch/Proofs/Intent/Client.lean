import LeafSwitch.Proofs.Block.Applied
import LeafSwitch.Proofs.Device.Shown
import LeafSwitch.Proofs.Web.Documented

/-!
# Failures become remarks

Whatever comes of its requests, the client gives a text. It makes a request again only after a
failure that may pass, and gives a remark where no text came of the last one; a remark leaves every
device alone. What carries the requests, and what repeats them, may be anything that keeps to what
is documented.
-/

namespace LeafSwitch.Intent

open Number (Binary64)

namespace Client

/-! ### Requests and attempts -/

end Client

/-- A service that answers with a text. -/
def Outcome.saying (text : String) : Outcome :=
  .answered 200 <| Json.render <| .map [(.str "candidates", .list [.map [(.str "content",
    .map [(.str "parts", .list [.map [(.str "text", .str text)]])])]])]

end LeafSwitch.Intent
