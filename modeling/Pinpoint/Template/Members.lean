import Pinpoint.Template.Member

/-!
# The members of each kind

Every kind lists its own members, in the order in which it was given them; what it shares with all
others stands in the list of `Kind.object`.

**Limits.** The lists, and what is said about a member, are those of one release (3.11); others have
a member more or less, or word its description in another way.

* `Kind.members` — the members of a kind.
-/

namespace Pinpoint.Template

namespace Members

open Member (operations method property field classMethod maker static constant)

/-- What a text has. -/
def ofText : List Member :=
  [maker "__new__" "($type, *args, **kwargs)"
      ["Create and return a new object.  See help(type) for accurate signature."]] ++
  operations ["__repr__", "__hash__", "__str__", "__getattribute__", "__lt__", "__le__",
    "__eq__", "__ne__", "__gt__", "__ge__", "__iter__", "__mod__", "__rmod__", "__len__",
    "__getitem__", "__add__", "__mul__", "__rmul__", "__contains__"] ++
  [method "encode" "($self, /, encoding='utf-8', errors='strict')"
      ["Encode the string using the codec registered for encoding.", "", "  encoding",
       "    The encoding in which to encode the string.", "  errors",
       "    The error handling scheme to use for encoding errors.",
       "    The default is 'strict' meaning that encoding errors raise a",
       "    UnicodeEncodeError.  Other possible values are 'ignore', 'replace' and",
       "    'xmlcharrefreplace' as well as any other name registered with",
       "    codecs.register_error that can handle UnicodeEncodeErrors."],
    method "replace" "($self, old, new, count=-1, /)"
      ["Return a copy with all occurrences of substring old replaced by new.", "", "  count",
       "    Maximum number of occurrences to replace.",
       "    -1 (the default value) means replace all occurrences.", "",
       "If the optional argument count is given, only the first count occurrences are",
       "replaced."],
    method "split" "($self, /, sep=None, maxsplit=-1)"
      ["Return a list of the substrings in the string, using sep as the separator string.", "",
       "  sep", "    The separator used to split the string.", "",
       "    When set to None (the default value), will split on any whitespace",
       "    character (including \\n \\r \\t \\f and spaces) and will discard",
       "    empty strings from the result.", "  maxsplit", "    Maximum number of splits.",
       "    -1 (the default value) means no limit.", "",
       "Splitting starts at the front of the string and works to the end.", "",
       "Note, str.split() is mainly useful for data that has been intentionally",
       "delimited.  With natural text that includes punctuation, consider using",
       "the regular expression module."],
    method "rsplit" "($self, /, sep=None, maxsplit=-1)"
      ["Return a list of the substrings in the string, using sep as the separator string.", "",
       "  sep", "    The separator used to split the string.", "",
       "    When set to None (the default value), will split on any whitespace",
       "    character (including \\n \\r \\t \\f and spaces) and will discard",
       "    empty strings from the result.", "  maxsplit", "    Maximum number of splits.",
       "    -1 (the default value) means no limit.", "",
       "Splitting starts at the end of the string and works to the front."],
    method "join" "($self, iterable, /)"
      ["Concatenate any number of strings.", "",
       "The string whose method is called is inserted in between each given string.",
       "The result is returned as a new string.", "",
       "Example: '.'.join(['ab', 'pq', 'rs']) -> 'ab.pq.rs'"],
    method "capitalize" "($self, /)"
      ["Return a capitalized version of the string.", "",
       "More specifically, make the first character have upper case and the rest lower", "case."],
    method "casefold" "($self, /)"
      ["Return a version of the string suitable for caseless comparisons."],
    method "title" "($self, /)"
      ["Return a version of the string where each word is titlecased.", "",
       "More specifically, words start with uppercased characters and all remaining",
       "cased characters have lower case."],
    method "center" "($self, width, fillchar=' ', /)"
      ["Return a centered string of length width.", "",
       "Padding is done using the specified fill character (default is a space)."],
    method "count" ""
      ["S.count(sub[, start[, end]]) -> int", "",
       "Return the number of non-overlapping occurrences of substring sub in",
       "string S[start:end].  Optional arguments start and end are",
       "interpreted as in slice notation."],
    method "expandtabs" "($self, /, tabsize=8)"
      ["Return a copy where all tab characters are expanded using spaces.", "",
       "If tabsize is not given, a tab size of 8 characters is assumed."],
    method "find" ""
      ["S.find(sub[, start[, end]]) -> int", "",
       "Return the lowest index in S where substring sub is found,",
       "such that sub is contained within S[start:end].  Optional",
       "arguments start and end are interpreted as in slice notation.", "",
       "Return -1 on failure."],
    method "partition" "($self, sep, /)"
      ["Partition the string into three parts using the given separator.", "",
       "This will search for the separator in the string.  If the separator is found,",
       "returns a 3-tuple containing the part before the separator, the separator",
       "itself, and the part after it.", "",
       "If the separator is not found, returns a 3-tuple containing the original string",
       "and two empty strings."],
    method "index" ""
      ["S.index(sub[, start[, end]]) -> int", "",
       "Return the lowest index in S where substring sub is found,",
       "such that sub is contained within S[start:end].  Optional",
       "arguments start and end are interpreted as in slice notation.", "",
       "Raises ValueError when the substring is not found."],
    method "ljust" "($self, width, fillchar=' ', /)"
      ["Return a left-justified string of length width.", "",
       "Padding is done using the specified fill character (default is a space)."],
    method "lower" "($self, /)" ["Return a copy of the string converted to lowercase."],
    method "lstrip" "($self, chars=None, /)"
      ["Return a copy of the string with leading whitespace removed.", "",
       "If chars is given and not None, remove characters in chars instead."],
    method "rfind" ""
      ["S.rfind(sub[, start[, end]]) -> int", "",
       "Return the highest index in S where substring sub is found,",
       "such that sub is contained within S[start:end].  Optional",
       "arguments start and end are interpreted as in slice notation.", "",
       "Return -1 on failure."],
    method "rindex" ""
      ["S.rindex(sub[, start[, end]]) -> int", "",
       "Return the highest index in S where substring sub is found,",
       "such that sub is contained within S[start:end].  Optional",
       "arguments start and end are interpreted as in slice notation.", "",
       "Raises ValueError when the substring is not found."],
    method "rjust" "($self, width, fillchar=' ', /)"
      ["Return a right-justified string of length width.", "",
       "Padding is done using the specified fill character (default is a space)."],
    method "rstrip" "($self, chars=None, /)"
      ["Return a copy of the string with trailing whitespace removed.", "",
       "If chars is given and not None, remove characters in chars instead."],
    method "rpartition" "($self, sep, /)"
      ["Partition the string into three parts using the given separator.", "",
       "This will search for the separator in the string, starting at the end. If",
       "the separator is found, returns a 3-tuple containing the part before the",
       "separator, the separator itself, and the part after it.", "",
       "If the separator is not found, returns a 3-tuple containing two empty strings",
       "and the original string."],
    method "splitlines" "($self, /, keepends=False)"
      ["Return a list of the lines in the string, breaking at line boundaries.", "",
       "Line breaks are not included in the resulting list unless keepends is given and", "true."],
    method "strip" "($self, chars=None, /)"
      ["Return a copy of the string with leading and trailing whitespace removed.", "",
       "If chars is given and not None, remove characters in chars instead."],
    method "swapcase" "($self, /)"
      ["Convert uppercase characters to lowercase and lowercase characters to uppercase."],
    method "translate" "($self, table, /)"
      ["Replace each character in the string using the given translation table.", "", "  table",
       "    Translation table, which must be a mapping of Unicode ordinals to",
       "    Unicode ordinals, strings, or None.", "",
       "The table must implement lookup/indexing via __getitem__, for instance a",
       "dictionary or list.  If this operation raises LookupError, the character is",
       "left untouched.  Characters mapped to None are deleted."],
    method "upper" "($self, /)" ["Return a copy of the string converted to uppercase."],
    method "startswith" ""
      ["S.startswith(prefix[, start[, end]]) -> bool", "",
       "Return True if S starts with the specified prefix, False otherwise.",
       "With optional start, test S beginning at that position.",
       "With optional end, stop comparing S at that position.",
       "prefix can also be a tuple of strings to try."],
    method "endswith" ""
      ["S.endswith(suffix[, start[, end]]) -> bool", "",
       "Return True if S ends with the specified suffix, False otherwise.",
       "With optional start, test S beginning at that position.",
       "With optional end, stop comparing S at that position.",
       "suffix can also be a tuple of strings to try."],
    method "removeprefix" "($self, prefix, /)"
      ["Return a str with the given prefix string removed if present.", "",
       "If the string starts with the prefix string, return string[len(prefix):].",
       "Otherwise, return a copy of the original string."],
    method "removesuffix" "($self, suffix, /)"
      ["Return a str with the given suffix string removed if present.", "",
       "If the string ends with the suffix string and that suffix is not empty,",
       "return string[:-len(suffix)]. Otherwise, return a copy of the original", "string."],
    method "isascii" "($self, /)"
      ["Return True if all characters in the string are ASCII, False otherwise.", "",
       "ASCII characters have code points in the range U+0000-U+007F.",
       "Empty string is ASCII too."],
    method "islower" "($self, /)"
      ["Return True if the string is a lowercase string, False otherwise.", "",
       "A string is lowercase if all cased characters in the string are lowercase and",
       "there is at least one cased character in the string."],
    method "isupper" "($self, /)"
      ["Return True if the string is an uppercase string, False otherwise.", "",
       "A string is uppercase if all cased characters in the string are uppercase and",
       "there is at least one cased character in the string."],
    method "istitle" "($self, /)"
      ["Return True if the string is a title-cased string, False otherwise.", "",
       "In a title-cased string, upper- and title-case characters may only",
       "follow uncased characters and lowercase characters only cased ones."],
    method "isspace" "($self, /)"
      ["Return True if the string is a whitespace string, False otherwise.", "",
       "A string is whitespace if all characters in the string are whitespace and there",
       "is at least one character in the string."],
    method "isdecimal" "($self, /)"
      ["Return True if the string is a decimal string, False otherwise.", "",
       "A string is a decimal string if all characters in the string are decimal and",
       "there is at least one character in the string."],
    method "isdigit" "($self, /)"
      ["Return True if the string is a digit string, False otherwise.", "",
       "A string is a digit string if all characters in the string are digits and there",
       "is at least one character in the string."],
    method "isnumeric" "($self, /)"
      ["Return True if the string is a numeric string, False otherwise.", "",
       "A string is numeric if all characters in the string are numeric and there is at",
       "least one character in the string."],
    method "isalpha" "($self, /)"
      ["Return True if the string is an alphabetic string, False otherwise.", "",
       "A string is alphabetic if all characters in the string are alphabetic and there",
       "is at least one character in the string."],
    method "isalnum" "($self, /)"
      ["Return True if the string is an alpha-numeric string, False otherwise.", "",
       "A string is alpha-numeric if all characters in the string are alpha-numeric and",
       "there is at least one character in the string."],
    method "isidentifier" "($self, /)"
      ["Return True if the string is a valid Python identifier, False otherwise.", "",
       "Call keyword.iskeyword(s) to test whether string s is a reserved identifier,",
       "such as \"def\" or \"class\"."],
    method "isprintable" "($self, /)"
      ["Return True if the string is printable, False otherwise.", "",
       "A string is printable if all of its characters are considered printable in",
       "repr() or if it is empty."],
    method "zfill" "($self, width, /)"
      ["Pad a numeric string with zeros on the left, to fill a field of the given width.", "",
       "The string is never truncated."],
    method "format" ""
      ["S.format(*args, **kwargs) -> str", "",
       "Return a formatted version of S, using substitutions from args and kwargs.",
       "The substitutions are identified by braces ('\x7b' and '\x7d')."],
    method "format_map" ""
      ["S.format_map(mapping) -> str", "",
       "Return a formatted version of S, using substitutions from mapping.",
       "The substitutions are identified by braces ('\x7b' and '\x7d')."],
    method "__format__" "($self, format_spec, /)"
      ["Return a formatted version of the string as described by format_spec."],
    static "maketrans" "(x, y=<unrepresentable>, z=<unrepresentable>, /)"
      ["Return a translation table usable for str.translate().", "",
       "If there is only one argument, it must be a dictionary mapping Unicode",
       "ordinals (integers) or characters to Unicode ordinals, strings or None.",
       "Character keys will be then converted to ordinals.",
       "If there are two arguments, they must be strings of equal length, and",
       "in the resulting dictionary, each character in x will be mapped to the",
       "character at the same position in y. If there is a third argument, it",
       "must be a string, whose characters will be mapped to None in the result."],
    method "__sizeof__" "($self, /)" ["Return the size of the string in memory, in bytes."],
    method "__getnewargs__" "" [],
    constant "__doc__"
      ["str(object='') -> str", "str(bytes_or_buffer[, encoding[, errors]]) -> str", "",
       "Create a new string object from the given object. If encoding or",
       "errors is specified, then the object must expose a data buffer",
       "that will be decoded using the given encoding and error handler.",
       "Otherwise, returns the result of object.__str__() (if defined)", "or repr(object).",
       "encoding defaults to sys.getdefaultencoding().", "errors defaults to 'strict'."]]

/-- What a whole number has. -/
def ofNumber : List Member :=
  [maker "__new__" "($type, *args, **kwargs)"
      ["Create and return a new object.  See help(type) for accurate signature."]] ++
  operations ["__repr__", "__hash__", "__getattribute__", "__lt__", "__le__", "__eq__",
    "__ne__", "__gt__", "__ge__", "__add__", "__radd__", "__sub__", "__rsub__", "__mul__",
    "__rmul__", "__mod__", "__rmod__", "__divmod__", "__rdivmod__", "__pow__", "__rpow__",
    "__neg__", "__pos__", "__abs__", "__bool__", "__invert__", "__lshift__", "__rlshift__",
    "__rshift__", "__rrshift__", "__and__", "__rand__", "__xor__", "__rxor__", "__or__",
    "__ror__", "__int__", "__float__", "__floordiv__", "__rfloordiv__", "__truediv__",
    "__rtruediv__", "__index__"] ++
  [method "conjugate" "" ["Returns self, the complex conjugate of any int."],
    method "bit_length" "($self, /)"
      ["Number of bits necessary to represent self in binary.", "", ">>> bin(37)", "'0b100101'",
       ">>> (37).bit_length()", "6"],
    method "bit_count" "($self, /)"
      ["Number of ones in the binary representation of the absolute value of self.", "",
       "Also known as the population count.", "", ">>> bin(13)", "'0b1101'",
       ">>> (13).bit_count()", "3"],
    method "to_bytes" "($self, /, length=1, byteorder='big', *, signed=False)"
      ["Return an array of bytes representing an integer.", "", "  length",
       "    Length of bytes object to use.  An OverflowError is raised if the",
       "    integer is not representable with the given number of bytes.  Default",
       "    is length 1.", "  byteorder",
       "    The byte order used to represent the integer.  If byteorder is 'big',",
       "    the most significant byte is at the beginning of the byte array.  If",
       "    byteorder is 'little', the most significant byte is at the end of the",
       "    byte array.  To request the native byte order of the host system, use",
       "    `sys.byteorder' as the byte order value.  Default is to use 'big'.", "  signed",
       "    Determines whether two's complement is used to represent the integer.",
       "    If signed is False and a negative integer is given, an OverflowError",
       "    is raised."],
    classMethod "from_bytes" "($type, /, bytes, byteorder='big', *, signed=False)"
      ["Return the integer represented by the given array of bytes.", "", "  bytes",
       "    Holds the array of bytes to convert.  The argument must either",
       "    support the buffer protocol or be an iterable object producing bytes.",
       "    Bytes and bytearray are examples of built-in objects that support the",
       "    buffer protocol.", "  byteorder",
       "    The byte order used to represent the integer.  If byteorder is 'big',",
       "    the most significant byte is at the beginning of the byte array.  If",
       "    byteorder is 'little', the most significant byte is at the end of the",
       "    byte array.  To request the native byte order of the host system, use",
       "    `sys.byteorder' as the byte order value.  Default is to use 'big'.", "  signed",
       "    Indicates whether two's complement is used to represent the integer."],
    method "as_integer_ratio" "($self, /)"
      ["Return integer ratio.", "",
       "Return a pair of integers, whose ratio is exactly equal to the original int",
       "and with a positive denominator.", "", ">>> (10).as_integer_ratio()", "(10, 1)",
       ">>> (-10).as_integer_ratio()", "(-10, 1)", ">>> (0).as_integer_ratio()", "(0, 1)"],
    method "__trunc__" "" ["Truncating an Integral returns itself."],
    method "__floor__" "" ["Flooring an Integral returns itself."],
    method "__ceil__" "" ["Ceiling of an Integral returns itself."],
    method "__round__" "($self, ndigits=<unrepresentable>, /)"
      ["Rounding an Integral returns itself.", "",
       "Rounding with an ndigits argument also returns an integer."],
    method "__getnewargs__" "($self, /)" [],
    method "__format__" "($self, format_spec, /)" [],
    method "__sizeof__" "($self, /)" ["Returns size in memory, in bytes."],
    property "real" "the real part of a complex number",
    property "imag" "the imaginary part of a complex number",
    property "numerator" "the numerator of a rational number in lowest terms",
    property "denominator" "the denominator of a rational number in lowest terms",
    constant "__doc__"
      ["int([x]) -> integer", "int(x, base=10) -> integer", "",
       "Convert a number or string to an integer, or return 0 if no arguments",
       "are given.  If x is a number, return x.__int__().  For floating point",
       "numbers, this truncates towards zero.", "",
       "If x is not a number or if base is given, then x must be a string,",
       "bytes, or bytearray instance representing an integer literal in the",
       "given base.  The literal can be preceded by '+' or '-' and be surrounded",
       "by whitespace.  The base defaults to 10.  Valid bases are 0 and 2-36.",
       "Base 0 means to interpret the base from the string as an integer literal.",
       ">>> int('0b100', base=0)", "4"]]

/-- What a truth value has besides what whole numbers have. -/
def ofBoolean : List Member :=
  [maker "__new__" "($type, *args, **kwargs)"
      ["Create and return a new object.  See help(type) for accurate signature."]] ++
  operations ["__repr__", "__and__", "__rand__", "__xor__", "__rxor__", "__or__", "__ror__"] ++
  [constant "__doc__"
      ["bool(x) -> bool", "", "Returns True when the argument x is true, False otherwise.",
       "The builtins True and False are the only two instances of the class bool.",
       "The class bool is a subclass of the class int, and cannot be subclassed."]]

/-- What every value has. -/
def ofObject : List Member :=
  [maker "__new__" "($type, *args, **kwargs)"
      ["Create and return a new object.  See help(type) for accurate signature."]] ++
  operations ["__repr__", "__hash__", "__str__", "__getattribute__", "__setattr__",
    "__delattr__", "__lt__", "__le__", "__eq__", "__ne__", "__gt__", "__ge__", "__init__"] ++
  [method "__reduce_ex__" "($self, protocol, /)" ["Helper for pickle."],
    method "__reduce__" "($self, /)" ["Helper for pickle."],
    method "__getstate__" "($self, /)" ["Helper for pickle."],
    classMethod "__subclasshook__" ""
      ["Abstract classes can override this to customize issubclass().", "",
       "This is invoked early on by abc.ABCMeta.__subclasscheck__().",
       "It should return True, False or NotImplemented.  If it returns",
       "NotImplemented, the normal algorithm is used.  Otherwise, it",
       "overrides the normal algorithm (and the outcome is cached).", ""],
    classMethod "__init_subclass__" ""
      ["This method is called when a class is subclassed.", "",
       "The default implementation does nothing. It may be", "overridden to extend subclasses.",
       ""],
    method "__format__" "($self, format_spec, /)" ["Default object formatter."],
    method "__sizeof__" "($self, /)" ["Size of object in memory, in bytes."],
    method "__dir__" "($self, /)" ["Default dir() implementation."],
    property "__class__" "the object's class",
    constant "__doc__"
      ["The base class of the class hierarchy.", "",
       "When called, it accepts no arguments and returns a new featureless",
       "instance that has no instance attributes and cannot be given any.", ""]]

/-- What a kind has. -/
def ofKinds : List Member :=
  [maker "__new__" "($type, *args, **kwargs)"
      ["Create and return a new object.  See help(type) for accurate signature."]] ++
  operations ["__repr__", "__call__", "__getattribute__", "__setattr__", "__delattr__",
    "__init__", "__or__", "__ror__"] ++
  [method "mro" "($self, /)" ["Return a type's method resolution order."],
    method "__subclasses__" "($self, /)" ["Return a list of immediate subclasses."],
    classMethod "__prepare__" ""
      ["__prepare__() -> dict", "used to create the namespace for the class statement"],
    method "__instancecheck__" "($self, instance, /)" ["Check if an object is an instance."],
    method "__subclasscheck__" "($self, subclass, /)" ["Check if a class is a subclass."],
    method "__dir__" "($self, /)" ["Specialized __dir__ implementation for types."],
    method "__sizeof__" "($self, /)" ["Return memory consumption of the type object."],
    field "__basicsize__" "",
    field "__itemsize__" "",
    field "__flags__" "",
    field "__weakrefoffset__" "",
    field "__base__" "",
    field "__dictoffset__" "",
    field "__mro__" "",
    property "__name__" "",
    property "__qualname__" "",
    property "__bases__" "",
    property "__module__" "",
    property "__abstractmethods__" "",
    property "__dict__" "",
    property "__doc__" "",
    property "__text_signature__" "",
    property "__annotations__" ""]

/-- What a tuple has. -/
def ofTuple : List Member :=
  [maker "__new__" "($type, *args, **kwargs)"
      ["Create and return a new object.  See help(type) for accurate signature."]] ++
  operations ["__repr__", "__hash__", "__getattribute__", "__lt__", "__le__", "__eq__",
    "__ne__", "__gt__", "__ge__", "__iter__", "__len__", "__getitem__", "__add__", "__mul__",
    "__rmul__", "__contains__"] ++
  [method "__getnewargs__" "($self, /)" [],
    method "index" "($self, value, start=0, stop=sys.maxsize, /)"
      ["Return first index of value.", "", "Raises ValueError if the value is not present."],
    method "count" "($self, value, /)" ["Return number of occurrences of value."],
    classMethod "__class_getitem__" "" ["See PEP 585"],
    constant "__doc__"
      ["Built-in immutable sequence.", "",
       "If no argument is given, the constructor returns an empty tuple.",
       "If iterable is specified the tuple is initialized from iterable's items.", "",
       "If the argument is a tuple, the return value is the same object."]]

/-- What the absence of a value has. -/
def ofNothing : List Member :=
  [maker "__new__" "($type, *args, **kwargs)"
      ["Create and return a new object.  See help(type) for accurate signature."]] ++
  operations ["__repr__", "__bool__"] ++
  [constant "__doc__" []]

/-- What a method of a value has. -/
def ofMethod : List Member :=
  operations ["__repr__", "__hash__", "__call__", "__getattribute__", "__lt__", "__le__",
    "__eq__", "__ne__", "__gt__", "__ge__"] ++
  [method "__reduce__" "" [],
    field "__module__" "",
    property "__doc__" "",
    property "__name__" "",
    property "__qualname__" "",
    property "__self__" "",
    property "__text_signature__" ""]

/-- What an operation of a value has. -/
def ofOperation : List Member :=
  operations ["__repr__", "__hash__", "__call__", "__getattribute__", "__lt__", "__le__",
    "__eq__", "__ne__", "__gt__", "__ge__"] ++
  [method "__reduce__" "" [],
    field "__self__" "",
    property "__objclass__" "",
    property "__name__" "",
    property "__qualname__" "",
    property "__doc__" "",
    property "__text_signature__" ""]

/-- What a method has that belongs to no value. -/
def ofMethodMember : List Member :=
  operations ["__repr__", "__call__", "__getattribute__", "__get__"] ++
  [method "__reduce__" "" [],
    field "__objclass__" "",
    field "__name__" "",
    property "__doc__" "",
    property "__qualname__" "",
    property "__text_signature__" ""]

/-- What an operation has that belongs to no value. -/
def ofOperationMember : List Member :=
  operations ["__repr__", "__call__", "__getattribute__", "__get__"] ++
  [method "__reduce__" "" [],
    field "__objclass__" "",
    field "__name__" "",
    property "__doc__" "",
    property "__qualname__" "",
    property "__text_signature__" ""]

/-- What a property has on its own. -/
def ofPropertyMember : List Member :=
  operations ["__repr__", "__getattribute__", "__get__", "__set__", "__delete__"] ++
  [field "__objclass__" "",
    field "__name__" "",
    property "__doc__" "",
    property "__qualname__" ""]

/-- What a field has on its own. -/
def ofFieldMember : List Member :=
  operations ["__repr__", "__getattribute__", "__get__", "__set__", "__delete__"] ++
  [method "__reduce__" "" [],
    field "__objclass__" "",
    field "__name__" "",
    property "__doc__" "",
    property "__qualname__" ""]

/-- What a method of a kind has on its own. -/
def ofClassMember : List Member :=
  operations ["__repr__", "__call__", "__getattribute__", "__get__"] ++
  [field "__objclass__" "",
    field "__name__" "",
    property "__doc__" "",
    property "__qualname__" "",
    property "__text_signature__" ""]

/-- What a static method has where its kind holds it. -/
def ofStaticMember : List Member :=
  [maker "__new__" "($type, *args, **kwargs)"
      ["Create and return a new object.  See help(type) for accurate signature."]] ++
  operations ["__repr__", "__call__", "__get__", "__init__"] ++
  [field "__func__" "",
    field "__wrapped__" "",
    property "__isabstractmethod__" "",
    property "__dict__" "",
    constant "__doc__"
      ["staticmethod(function) -> method", "", "Convert a function to be a static method.", "",
       "A static method does not receive an implicit first argument.",
       "To declare a static method, use this idiom:", "", "     class C:",
       "         @staticmethod", "         def f(arg1, arg2, argN):", "             ...", "",
       "It can be called either on the class (e.g. C.f()) or on an instance",
       "(e.g. C().f()). Both the class and the instance are ignored, and",
       "neither is passed implicitly as the first argument to the method.", "",
       "Static methods in Python are similar to those found in Java or C++.",
       "For a more advanced concept, see the classmethod builtin."]]

/-- What the table of the members of a kind has. -/
def ofMemberTable : List Member :=
  [maker "__new__" "($type, *args, **kwargs)"
      ["Create and return a new object.  See help(type) for accurate signature."]] ++
  operations ["__repr__", "__str__", "__getattribute__", "__lt__", "__le__", "__eq__", "__ne__",
    "__gt__", "__ge__", "__iter__", "__or__", "__ror__", "__ior__", "__len__", "__getitem__",
    "__contains__"] ++
  [method "get" "" ["D.get(k[,d]) -> D[k] if k in D, else d.  d defaults to None."],
    method "keys" "" ["D.keys() -> a set-like object providing a view on D's keys"],
    method "values" "" ["D.values() -> an object providing a view on D's values"],
    method "items" "" ["D.items() -> a set-like object providing a view on D's items"],
    method "copy" "" ["D.copy() -> a shallow copy of D"],
    classMethod "__class_getitem__" "" ["See PEP 585"],
    method "__reversed__" "" ["D.__reversed__() -> reverse iterator"],
    constant "__doc__" [],
    constant "__hash__" []]

/-- What a dictionary has. -/
def ofDictionary : List Member :=
  [maker "__new__" "($type, *args, **kwargs)"
      ["Create and return a new object.  See help(type) for accurate signature."]] ++
  operations ["__repr__"] ++ [constant "__hash__" []] ++
  operations ["__getattribute__", "__lt__", "__le__", "__eq__", "__ne__", "__gt__", "__ge__",
    "__iter__", "__init__", "__or__", "__ror__", "__ior__", "__len__"] ++
  [method "__getitem__" "" ["x.__getitem__(y) <==> x[y]"]] ++
  operations ["__setitem__", "__delitem__"] ++
  [method "__contains__" "($self, key, /)"
      ["True if the dictionary has the specified key, else False."],
    method "__sizeof__" "" ["D.__sizeof__() -> size of D in memory, in bytes"],
    method "get" "($self, key, default=None, /)"
      ["Return the value for key if key is in the dictionary, else default."],
    method "setdefault" "($self, key, default=None, /)"
      ["Insert key with a value of default if key is not in the dictionary.", "",
       "Return the value for key if key is in the dictionary, else default."],
    method "pop" "($self, key, default=<unrepresentable>, /)"
      ["D.pop(k[,d]) -> v, remove specified key and return the corresponding value.", "",
       "If the key is not found, return the default if given; otherwise,", "raise a KeyError."],
    method "popitem" "($self, /)"
      ["Remove and return a (key, value) pair as a 2-tuple.", "",
       "Pairs are returned in LIFO (last-in, first-out) order.",
       "Raises KeyError if the dict is empty."],
    method "keys" "" ["D.keys() -> a set-like object providing a view on D's keys"],
    method "items" "" ["D.items() -> a set-like object providing a view on D's items"],
    method "values" "" ["D.values() -> an object providing a view on D's values"],
    method "update" ""
      ["D.update([E, ]**F) -> None.  Update D from dict/iterable E and F.",
       "If E is present and has a .keys() method, then does:  for k in E: D[k] = E[k]",
       "If E is present and lacks a .keys() method, then does:  for k, v in E: D[k] = v",
       "In either case, this is followed by: for k in F:  D[k] = F[k]"],
    classMethod "fromkeys" "($type, iterable, value=None, /)"
      ["Create a new dictionary with keys from iterable and values set to value."],
    method "clear" "" ["D.clear() -> None.  Remove all items from D."],
    method "copy" "" ["D.copy() -> a shallow copy of D"],
    method "__reversed__" "($self, /)" ["Return a reverse iterator over the dict keys."],
    classMethod "__class_getitem__" "" ["See PEP 585"],
    constant "__doc__"
      ["dict() -> new empty dictionary",
       "dict(mapping) -> new dictionary initialized from a mapping object's",
       "    (key, value) pairs", "dict(iterable) -> new dictionary initialized as if via:",
       "    d = \x7b\x7d", "    for k, v in iterable:", "        d[k] = v",
       "dict(**kwargs) -> new dictionary initialized with the name=value pairs",
       "    in the keyword argument list.  For example:  dict(one=1, two=2)"]]

/-- What a kind with an argument has. -/
def ofGeneric : List Member :=
  [maker "__new__" "($type, *args, **kwargs)"
      ["Create and return a new object.  See help(type) for accurate signature."]] ++
  operations ["__repr__", "__hash__", "__call__", "__getattribute__", "__lt__", "__le__",
    "__eq__", "__ne__", "__gt__", "__ge__", "__iter__", "__or__", "__ror__", "__getitem__"] ++
  [method "__mro_entries__" "" [],
    method "__instancecheck__" "" [],
    method "__subclasscheck__" "" [],
    method "__reduce__" "" [],
    method "__dir__" "" [],
    field "__origin__" "",
    field "__args__" "",
    field "__unpacked__" "",
    property "__parameters__" "Type variables in the GenericAlias.",
    property "__typing_unpacked_tuple_args__" "",
    constant "__doc__"
      ["Represent a PEP 585 generic type", "",
       "E.g. for t = list[int], t.__origin__ is list and t.__args__ is (int,)."]]

end Members

/-- The members of a kind. -/
def Kind.members : Kind → List Member
  | text => Members.ofText
  | number => Members.ofNumber
  | boolean => Members.ofBoolean
  | object => Members.ofObject
  | kinds => Members.ofKinds
  | tuple => Members.ofTuple
  | nothing => Members.ofNothing
  | method => Members.ofMethod
  | operation => Members.ofOperation
  | methodMember => Members.ofMethodMember
  | operationMember => Members.ofOperationMember
  | propertyMember => Members.ofPropertyMember
  | fieldMember => Members.ofFieldMember
  | classMember => Members.ofClassMember
  | staticMember => Members.ofStaticMember
  | memberTable => Members.ofMemberTable
  | dictionary => Members.ofDictionary
  | generic => Members.ofGeneric

end Pinpoint.Template
