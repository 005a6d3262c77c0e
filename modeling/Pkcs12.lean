import Pkcs12.Main
import Pkcs12.Proofs.Bytes.Chunks
import Pkcs12.Proofs.Bytes.Numbers
import Pkcs12.Proofs.Cipher.Chaining
import Pkcs12.Proofs.Cipher.Padding
import Pkcs12.Proofs.Cipher.Rc2
import Pkcs12.Proofs.Cipher.TripleDes
import Pkcs12.Proofs.Cipher.Permutation
import Pkcs12.Proofs.KeyStream.Stream
import Pkcs12.Proofs.Encryption.Keyed
import Pkcs12.Proofs.Encryption.RoundTrip
import Pkcs12.Proofs.Encryption.Failure
import Pkcs12.Proofs.KeyStream.Reference
import Pkcs12.Proofs.KeyStream.InPlace
import Pkcs12.Proofs.Der.Element
import Pkcs12.Proofs.Der.ObjectIdentifier
import Pkcs12.Proofs.Algorithm.RoundTrip
import Pkcs12.Proofs.Settings
import Pkcs12.Proofs.Algorithm.Reading
import Pkcs12.Proofs.Content.History
import Pkcs12.Proofs.Encryption.Tampering
import Pkcs12.Proofs.Log
import Pkcs12.Proofs.Number.Quotient
import Pkcs12.Proofs.SelfCheck.Tamper
import Pkcs12.Proofs.Text.Hex
import Pkcs12.Proofs.Text.Utf8
import Pkcs12.Proofs.Cli.Arguments
import Pkcs12.Proofs.Cli.Choices
import Pkcs12.Proofs.Cli.Answer
import Pkcs12.Proofs.Cli.Run
import Pkcs12.Proofs.Algorithm.Length
import Pkcs12.Proofs.Cli.RoundTrip
import Pkcs12.Proofs.Settings.History
import Pkcs12.Proofs.SelfCheck.RoundTrip
import Pkcs12.Proofs.SelfCheck.Suite
import Pkcs12.Proofs.Cli.Counts
import Pkcs12.Proofs.Text.Surrogates
import Pkcs12.Proofs.Cli.Escape
import Pkcs12.Proofs.Cli.Exit
import Pkcs12.Proofs.Cipher.Division
import Pkcs12.Proofs.Encryption.Division
import Pkcs12.Proofs.Encryption.Reuse
import Pkcs12.Proofs.Cipher.Damage
import Pkcs12.Proofs.Encryption.Damage
import Pkcs12.Proofs.KeyStream.Cut
import Pkcs12.Proofs.KeyStream.FirstInput
import Pkcs12.Proofs.Encryption.Defaults
import Pkcs12.Proofs.Report.Path
