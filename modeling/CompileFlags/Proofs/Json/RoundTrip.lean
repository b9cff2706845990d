import CompileFlags.Json.Printer
import CompileFlags.Json.Reader

set_option autoImplicit false

namespace CompileFlags.Json

attribute [local simp] tokensFrom tokensFrom.start Piece.chars?

end CompileFlags.Json
