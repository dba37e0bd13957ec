import StreamScout.Proofs.Text.Utf8
import StreamScout.Text.Percent

namespace StreamScout.Text

variable {b x y : UInt8} {bs bs' : List UInt8} {c : Char}

end StreamScout.Text
