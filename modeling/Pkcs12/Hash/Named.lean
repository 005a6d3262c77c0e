/-
Hash functions by name. Each has several names in circulation, its object
identifier among them. Names are read in either case.
-/
import Pkcs12.Hash.Md5
import Pkcs12.Hash.Sha1
import Pkcs12.Hash.Sha256
import Pkcs12.Hash.Sha512

namespace Pkcs12.Hash

/-- The hash functions and their names in lower case. -/
def named : List (Hash × List String) :=
  [(md5, ["md5", "ssl3-md5", "1.2.840.113549.2.5"]),
    (sha1, ["sha1", "sha-1", "ssl3-sha1", "1.3.14.3.2.26"]),
    (sha224, ["sha224", "sha-224", "sha2-224", "2.16.840.1.101.3.4.2.4"]),
    (sha256, ["sha256", "sha-256", "sha2-256", "2.16.840.1.101.3.4.2.1"]),
    (sha384, ["sha384", "sha-384", "sha2-384", "2.16.840.1.101.3.4.2.2"]),
    (sha512, ["sha512", "sha-512", "sha2-512", "2.16.840.1.101.3.4.2.3"])]

/-- The hash function of a name. -/
def ofName? (name : String) : Option Hash :=
  (named.find? fun entry => entry.2.contains name.toLower).map (·.1)

end Pkcs12.Hash
