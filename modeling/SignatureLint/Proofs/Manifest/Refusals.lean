import SignatureLint.Command.Run
import SignatureLint.Proofs.FileTree.Faults
import SignatureLint.Proofs.Json.LongIntegers
import SignatureLint.Proofs.Outcome
import SignatureLint.Proofs.Text.Readings

/-!
# Which errors of a manifest are reported

Most of what is wrong with a manifest is reported.  What is not ends a run at once: a file that is
no UTF-8, an integer that is too long to be read, and a path name that holds a null character.
-/

namespace SignatureLint

namespace Manifest

open Failure (reportsManifest)

/-- The octets of a file that holds no manifest, which is not reported. -/
inductive FileEscapes (octets : List UInt8) : Prop where
  | encoding (broken : ∀ text, Utf8.encode text ≠ octets) : FileEscapes octets
  | longInteger {text : List Char} {digits : Nat} (whole : Utf8.encode text = octets)
      (long : Json.read (String.ofList (Text.normalizeNewlines text)) =
        .error (.longInteger digits)) : FileEscapes octets

end Manifest

namespace Manifest

open Failure (reportsManifest)

end Manifest

end SignatureLint
