import PingPost.Pattern.Reader
import PingPost.Pattern.Program

/-! Patterns from their written form. -/

namespace PingPost.Pattern

/-- The pattern of a text that follows the grammar and whose programs are not too large. -/
def ofText? (s : String) : Option Pattern := (read? s).filter fits

end PingPost.Pattern
