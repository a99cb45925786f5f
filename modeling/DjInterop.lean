import DjInterop.Sqlite.Value
import DjInterop.Sqlite.Table
import DjInterop.SemanticVersion
import DjInterop.Storage.Basic
import DjInterop.Storage.Track
import DjInterop.Storage.PerformanceData
import DjInterop.Storage.MetaData
import DjInterop.Storage.Version
import DjInterop.Schema.Validate
import DjInterop.Storage.Facade
import DjInterop.Storage.Invariants
import DjInterop.Storage.Compose
